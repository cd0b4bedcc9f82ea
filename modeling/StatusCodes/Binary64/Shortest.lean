import StatusCodes.Binary64.Nearest

/-!
# The shortest decimal of a number

A number is shown with as few digits as tell it apart from its neighbours. A decimal does so when
it lies between the midpoints to the two neighbours, the midpoints included if the number's last
bit is even. The grids of multiples of a power of ten are tried from the coarsest to the finest,
and on each only the two points on either side of the number: if any point of a grid lies between
the midpoints, one of those two does. Of two that fit the closer is taken, the upper if they are
equally close.
-/

namespace StatusCodes.Binary64

/-- A positive number and the midpoints to its neighbours, all over one denominator. -/
structure Surroundings where
  lower : Nat
  exact : Nat
  upper : Nat
  den : Nat
  closed : Bool

/-- The surroundings of a positive magnitude. Below a power of two the neighbour is half as far
away as above it, except among the smallest numbers. -/
def surroundings (m : Nat) : Surroundings :=
  let (s, power) := significand m
  let below := if s = Nat.pow 2 52 ∧ power ≠ -1074 then 1 else 2
  let unit := power - 2
  let factor := if 0 ≤ unit then Nat.pow 2 unit.toNat else 1
  { lower := (4 * s - below) * factor
    exact := 4 * s * factor
    upper := (4 * s + 2) * factor
    den := if 0 ≤ unit then 1 else Nat.pow 2 (-unit).toNat
    closed := s % 2 = 0 }

/-- A decimal over the common denominator, and that denominator scaled to match. -/
def Surroundings.compare (v : Surroundings) (digits : Nat) (exponent : Int) : Nat × Nat :=
  if 0 ≤ exponent then (digits * Nat.pow 10 exponent.toNat * v.den, 1)
  else (digits * v.den, Nat.pow 10 (-exponent).toNat)

/-- Whether a decimal lies between the midpoints. -/
def Surroundings.holds (v : Surroundings) (digits : Nat) (exponent : Int) : Bool :=
  let (point, scale) := v.compare digits exponent
  if v.closed then v.lower * scale ≤ point && point ≤ v.upper * scale
  else v.lower * scale < point && point < v.upper * scale

/-- The point of a grid that stands for the number, if one does. -/
def Surroundings.onGrid? (v : Surroundings) (exponent : Int) : Option Nat :=
  let digits :=
    if 0 ≤ exponent then v.exact / (v.den * Nat.pow 10 exponent.toNat)
    else v.exact * Nat.pow 10 (-exponent).toNat / v.den
  match v.holds digits exponent, v.holds (digits + 1) exponent with
  | true, false => some digits
  | false, true => some (digits + 1)
  | false, false => none
  | true, true =>
      let (low, scale) := v.compare digits exponent
      let (high, _) := v.compare (digits + 1) exponent
      some (if 2 * (v.exact * scale) < low + high then digits else digits + 1)

/-- The exponents of the grids, coarsest first. On the last of them every number has a point. -/
def grids : List Int :=
  (List.range 633).map fun (i : Nat) => 308 - (i : Int)

/-- The shortest decimal of a number that is neither zero nor infinite, without its sign. -/
def shortest (m : Nat) : Nat × Int :=
  let v := surroundings m
  (grids.findSome? fun e => (v.onGrid? e).map fun digits => (digits, e)).getD (0, 0)

end StatusCodes.Binary64
