/-!
# Whole numbers in texts

A whole number is written in decimal digits, of which the first may be zeros, after at most one
plus sign.
-/

namespace StatusCodes.Text

/-- The number that decimal digits spell. -/
def digitsValue (digits : List Char) : Nat :=
  digits.foldl (fun n c => 10 * n + (c.toNat - '0'.toNat)) 0

/-- The number in a text that is nothing but digits, and at least one. -/
def digits? (text : List Char) : Option Nat :=
  if text ≠ [] ∧ text.all Char.isDigit then some (digitsValue text) else none

/-- The whole number in a text. -/
def unsigned? (text : List Char) : Option Nat :=
  match text with
  | '+' :: rest => digits? rest
  | _ => digits? text

end StatusCodes.Text
