/-!
# Text as 16-bit units

A character up to U+FFFF is one unit, and a later one is a pair of surrogates, a high one followed
by a low one. The surrogate numbers stand for no character by themselves, so a list of units is
text only if every high surrogate is followed by a low one and no low one stands elsewhere.
-/

namespace StatusCodes.Text.Utf16

/-- Whether a unit opens a pair. -/
def isHigh (u : Nat) : Bool :=
  0xD800 ≤ u && u < 0xDC00

/-- Whether a unit closes a pair. -/
def isLow (u : Nat) : Bool :=
  0xDC00 ≤ u && u < 0xE000

/-- The character of a pair. -/
def paired (high low : Nat) : Char :=
  Char.ofNat (0x10000 + (high - 0xD800) * 0x400 + (low - 0xDC00))

/-- The characters that units stand for, unless a surrogate stands alone. -/
def decode? : List Nat → Option (List Char)
  | [] => some []
  | [u] => if isHigh u || isLow u then none else some [Char.ofNat u]
  | u :: v :: rest =>
      if isLow u then none
      else if isHigh u then
        if isLow v then (decode? rest).map (paired u v :: ·) else none
      else (decode? (v :: rest)).map (Char.ofNat u :: ·)

/-- The units of a character. -/
def encode (c : Char) : List Nat :=
  if c.toNat < 0x10000 then [c.toNat]
  else [0xD800 + (c.toNat - 0x10000) / 0x400, 0xDC00 + (c.toNat - 0x10000) % 0x400]

end StatusCodes.Text.Utf16
