import StatusCodes.Binary64.Nearest
import StatusCodes.Json.Cause

/-!
# Number literals

A number literal is an optional minus sign, a whole part, and optionally a fraction and an
exponent. Each part must have a digit, and a whole part of several digits does not begin with
zero. Nothing marks the end of a literal: it ends before the first character that cannot continue
it, and what is missing is noticed only there.
-/

namespace StatusCodes.Json

/-- The part of a literal that the next character may continue. -/
inductive Numeral.Part
  | whole
  | fraction
  | exponentSign
  | exponent
  deriving DecidableEq, Repr

/-- A literal as far as it has been read. Digits are kept last first. -/
structure Numeral where
  negative : Bool
  part : Numeral.Part
  whole : List Char
  fraction : List Char
  exponentNegative : Bool
  exponent : List Char

namespace Numeral

/-- A literal that begins with a minus sign. -/
def minus : Numeral := ⟨true, .whole, [], [], false, []⟩

/-- A literal that begins with a digit. -/
def digit (c : Char) : Numeral := ⟨false, .whole, [c], [], false, []⟩

/-- What keeps the part that is being read from ending here. -/
def missing? (n : Numeral) : Option Cause :=
  match n.part with
  | .whole =>
      if n.whole.isEmpty then some .noWholePart
      else if 1 < n.whole.length ∧ n.whole.getLast? = some '0' then some .leadingZero
      else none
  | .fraction => if n.fraction.isEmpty then some .noFraction else none
  | .exponentSign => some .noExponent
  | .exponent => if n.exponent.isEmpty then some .noExponent else none

/-- The literal with one more character, if the character can continue it. -/
def extend? (n : Numeral) (c : Char) : Option Numeral :=
  match n.part with
  | .whole => if c.isDigit then some { n with whole := c :: n.whole } else none
  | .fraction => if c.isDigit then some { n with fraction := c :: n.fraction } else none
  | .exponentSign =>
      if c = '-' then some { n with part := .exponent, exponentNegative := true }
      else if c = '+' then some { n with part := .exponent }
      else if c.isDigit then some { n with part := .exponent, exponent := [c] }
      else none
  | .exponent => if c.isDigit then some { n with exponent := c :: n.exponent } else none

/-- The next part of the literal, if the character opens one. -/
def open? (n : Numeral) (c : Char) : Option Numeral :=
  match n.part with
  | .whole =>
      if c = '.' then some { n with part := .fraction }
      else if c = 'e' ∨ c = 'E' then some { n with part := .exponentSign }
      else none
  | .fraction => if c = 'e' ∨ c = 'E' then some { n with part := .exponentSign } else none
  | _ => none

/-- What a character does to a literal: continue it, show it to be incomplete, or end it. -/
def next (n : Numeral) (c : Char) : Except Cause (Option Numeral) :=
  match n.extend? c with
  | some m => .ok (some m)
  | none =>
      match n.missing? with
      | some cause => .error cause
      | none => .ok (n.open? c)

/-- The number that digits spell, the last digit first. -/
def spelled : List Char → Nat
  | [] => 0
  | c :: before => 10 * spelled before + (c.toNat - '0'.toNat)

/-- The literal as a decimal. -/
def decimal (n : Numeral) : Decimal where
  negative := n.negative
  digits := spelled (n.fraction ++ n.whole)
  exponent :=
    (if n.exponentNegative then -(spelled n.exponent : Int) else spelled n.exponent)
      - n.fraction.length

/-- The number of a literal that ends here. -/
def close (n : Numeral) : Except Cause Binary64 :=
  match n.missing? with
  | some cause => .error cause
  | none => .ok (Binary64.ofDecimal n.decimal)

end Numeral

end StatusCodes.Json
