/-!
# Binary64 numbers

The numbers of a document are kept as the 64-bit words of the binary interchange format: a sign,
an exponent of 11 bits and a fraction of 52. Words are compared, never numbers, so that minus zero
and zero stay apart.
-/

namespace StatusCodes

/-- A number in the 64-bit binary interchange format. -/
structure Binary64 where
  bits : UInt64
  deriving DecidableEq, Repr

namespace Binary64

/-- Whether the sign bit is set. -/
def isNegative (x : Binary64) : Bool :=
  Nat.pow 2 63 ≤ x.bits.toNat

/-- The word without its sign bit. Magnitudes are ordered as these words are. -/
def magnitude (x : Binary64) : Nat :=
  x.bits.toNat % Nat.pow 2 63

/-- The magnitude of infinity. Larger ones are not numbers. -/
def infinity : Nat :=
  2047 * Nat.pow 2 52

/-- The number with a given sign and magnitude. -/
def ofMagnitude (negative : Bool) (m : Nat) : Binary64 :=
  ⟨UInt64.ofNat (if negative then Nat.pow 2 63 + m else m)⟩

/-- A magnitude below infinity is `fst * 2 ^ snd`. -/
def significand (m : Nat) : Nat × Int :=
  let exponent : Nat := m / Nat.pow 2 52
  let fraction : Nat := m % Nat.pow 2 52
  if exponent = 0 then (fraction, -1074)
  else (Nat.pow 2 52 + fraction, (exponent : Int) - 1075)

end Binary64

end StatusCodes
