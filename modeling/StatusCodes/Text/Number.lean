/-!
# Numbers in texts

A number is written in decimal digits after an optional sign, with an optional point among or
beside them and an optional exponent. Infinity and the number that is none have names of their
own. Numbers of characters are written in hexadecimal digits.
-/

namespace StatusCodes.Text

/-- The value of a hexadecimal digit, in either case. -/
def hexadecimal? (c : Char) : Option Nat :=
  if c.isDigit then some (c.toNat - '0'.toNat)
  else if 'a' ≤ c ∧ c ≤ 'f' then some (c.toNat - 'a'.toNat + 10)
  else if 'A' ≤ c ∧ c ≤ 'F' then some (c.toNat - 'A'.toNat + 10)
  else none

/-- A text without a sign at its beginning. -/
def withoutSign : List Char → List Char
  | '+' :: rest => rest
  | '-' :: rest => rest
  | text => text

/-- Whether a text is nothing, or an exponent. -/
def isExponent : List Char → Bool
  | [] => true
  | mark :: rest =>
      let digits := withoutSign rest
      (mark == 'e' || mark == 'E') && !digits.isEmpty && digits.all Char.isDigit

/-- Whether a text is a number. -/
def isNumber (text : List Char) : Bool :=
  let text := withoutSign text
  let word := String.ofList (text.map Char.toLower)
  let whole := text.takeWhile Char.isDigit
  let rest := text.dropWhile Char.isDigit
  let (fraction, rest) :=
    match rest with
    | '.' :: rest => (rest.takeWhile Char.isDigit, rest.dropWhile Char.isDigit)
    | _ => ([], rest)
  ["inf", "infinity", "nan"].contains word ||
    (!(whole ++ fraction).isEmpty && isExponent rest)

end StatusCodes.Text
