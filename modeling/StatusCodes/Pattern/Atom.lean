import StatusCodes.Pattern.Mode
import StatusCodes.Text.Number

/-!
# Atoms of patterns

An atom is what a character stands for in a pattern, by itself or behind a backslash. Which atoms
a pattern may hold depends on how it is read. There are no tables of the characters of every
script, of their kinds and of their cases, so whatever needs one cannot be asked for. When bytes
are read, nothing can be asked for that could come to stand for a part of a character.
-/

namespace StatusCodes.Pattern

/-- What a character stands for. -/
inductive Atom
  /-- A character. It may have been written by the number of a byte. -/
  | literal (c : Char) (byByte : Bool)
  /-- The digits, the white space or the characters of words, or all but these. -/
  | shorthand (negated : Bool)
  /-- The beginning or the end of a text. -/
  | edge
  /-- The beginning or the end of a word, or neither. -/
  | wordEdge
  deriving DecidableEq, Repr

namespace Atom

/-- Whether the atom can be an item. -/
def isItem (m : Mode) : Atom → Bool
  | .literal c byByte =>
      if m.unicode then !m.caseless else !(byByte && decide (0x80 ≤ c.toNat))
  | .shorthand negated => !m.unicode && !negated
  | .edge => true
  | .wordEdge => !m.unicode

/-- Whether the atom can be a member of a class. -/
def isMember (m : Mode) : Atom → Bool
  | .literal c _ => if m.unicode then !m.caseless else c.toNat < 0x80
  | .shorthand negated => !m.unicode && !negated
  | .edge => false
  | .wordEdge => false

/-- Whether two atoms can be the ends of a range. -/
def areEnds : Atom → Atom → Bool
  | .literal lower _, .literal upper _ => lower ≤ upper
  | _, _ => false

/-- The number that some hexadecimal digits make together with those before them, and what comes
behind. Between the digits there may be what is passed over. -/
def hexadecimals? (m : Mode) : Nat → Nat → List Char → Option (Nat × List Char)
  | 0, value, text => some (value, text)
  | n + 1, value, text =>
      match m.skip text with
      | [] => none
      | c :: rest => (Text.hexadecimal? c).bind fun d => hexadecimals? m n (16 * value + d) rest

/-- The character whose number is written in some hexadecimal digits, and what comes behind. -/
def numbered? (m : Mode) (digits : Nat) (text : List Char) : Option (Atom × List Char) :=
  (hexadecimals? m digits 0 text).bind fun (value, rest) =>
    if value.isValidChar then some (.literal (Char.ofNat value) (digits == 2), rest) else none

/-- The atom behind a backslash, and what comes behind it. Properties of characters have no
tables. -/
def escaped? (m : Mode) : List Char → Option (Atom × List Char)
  | [] => none
  | c :: rest =>
      match c with
      | 'x' => numbered? m 2 rest
      | 'u' => numbered? m 4 rest
      | 'U' => numbered? m 8 rest
      | 'a' => some (.literal '\x07' false, rest)
      | 'f' => some (.literal '\x0c' false, rest)
      | 't' => some (.literal '\t' false, rest)
      | 'n' => some (.literal '\n' false, rest)
      | 'r' => some (.literal '\r' false, rest)
      | 'v' => some (.literal '\x0b' false, rest)
      | 'A' => some (.edge, rest)
      | 'z' => some (.edge, rest)
      | _ =>
          if "dsw".toList.contains c then some (.shorthand false, rest)
          else if "DSW".toList.contains c then some (.shorthand true, rest)
          else if "bB<>".toList.contains c then some (.wordEdge, rest)
          else if c.isAlphanum || 0x80 ≤ c.toNat then none
          else some (.literal c false, rest)

end Atom

end StatusCodes.Pattern
