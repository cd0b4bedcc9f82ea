import StatusCodes.Binary64

/-!
# The number nearest to a decimal

A decimal is read as the binary number closest to it, of two equally close ones that with an even
last bit. A decimal beyond the largest number becomes infinity, one too close to zero becomes
zero, and both keep their sign.
-/

namespace StatusCodes

/-- The decimal `digits * 10 ^ exponent`, with a sign that zero has as well. -/
structure Decimal where
  negative : Bool
  digits : Nat
  exponent : Int
  deriving DecidableEq, Repr

namespace Binary64

/-- A quotient rounded to the nearest integer, halves to the even one. -/
def roundedQuotient (num den : Nat) : Nat :=
  let q := num / den
  let r := num % den
  if 2 * r < den then q
  else if den < 2 * r then q + 1
  else q + q % 2

/-- A fraction divided by a power of two, as a fraction. -/
def scaled (num den : Nat) (power : Int) : Nat × Nat :=
  if 0 ≤ power then (num, den * Nat.pow 2 power.toNat)
  else (num * Nat.pow 2 (-power).toNat, den)

/-- The power of two that the last bit of a positive fraction stands for: the one that leaves 53
bits before the point, but never less than the smallest there is. -/
def lastBit (num den : Nat) : Int :=
  let guess : Int := (num.log2 : Int) - den.log2 - 53
  let (n, d) := scaled num den guess
  max (-1074) (if Nat.pow 2 53 ≤ n / d then guess + 1 else guess)

/-- The magnitude of the number nearest to a positive fraction. Rounding up to the next power of
two carries into the exponent by itself. -/
def nearestMagnitude (num den : Nat) : Nat :=
  let power := lastBit num den
  let (n, d) := scaled num den power
  min infinity ((power + 1074).toNat * Nat.pow 2 52 + roundedQuotient n d)

/-- The number nearest to a decimal. Exponents far outside the range are settled first, since the
power of ten would be too large to write down. -/
def ofDecimal (d : Decimal) : Binary64 :=
  ofMagnitude d.negative <|
    if d.digits = 0 then 0
    else if 400 < d.exponent then infinity
    else if (d.digits.log2 : Int) + 1 + d.exponent < -400 then 0
    else if 0 ≤ d.exponent then nearestMagnitude (d.digits * Nat.pow 10 d.exponent.toNat) 1
    else nearestMagnitude d.digits (Nat.pow 10 (-d.exponent).toNat)

/-- A rounded quotient is within half a unit of the exact one. -/
theorem roundedQuotient_near (num den : Nat) (h : 0 < den) :
    2 * (roundedQuotient num den * den) ≤ 2 * num + den ∧
      2 * num ≤ 2 * (roundedQuotient num den * den) + den := by
  have whole : den * (num / den) + num % den = num := Nat.div_add_mod num den
  have small : num % den < den := Nat.mod_lt _ h
  simp only [roundedQuotient]
  have next : (num / den + 1) * den = den * (num / den) + den := by
    rw [Nat.add_mul, Nat.mul_comm]; simp
  have same : num / den * den = den * (num / den) := Nat.mul_comm ..
  rcases Nat.mod_two_eq_zero_or_one (num / den) with even | odd
  · rw [even]
    split
    · omega
    · split
      · omega
      · simp only [Nat.add_zero]
        omega
  · rw [odd]
    split
    · omega
    · split <;> omega

end Binary64

end StatusCodes
