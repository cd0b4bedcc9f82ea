import StatusCodes.Json.Inspect
import StatusCodes.Text.Position

/-!
# Why a text is not a document

Each way in which reading can fail, with what its message quotes, and the failure as it is
reported: the cause and how far the text had been read.
-/

namespace StatusCodes.Json

/-- What was wrong with a text. -/
inductive Cause
  /-- The text ended too early. -/
  | unexpectedEnd
  /-- No value begins with the character. -/
  | noValue (c : Char)
  /-- The document was complete and something followed. -/
  | trailing (c : Char)
  /-- A constant was misspelled where a certain letter had to stand. -/
  | misspelled (letter : Char) (word : String)
  /-- The key of a member was not a text. -/
  | keyNotText (key : Json)
  /-- No colon followed a key. -/
  | noColon (c : Char)
  /-- A member was followed by neither a comma nor the end of its object. -/
  | objectUnclosed (c : Char)
  /-- An item was followed by neither a comma nor the end of its array. -/
  | arrayUnclosed (c : Char)
  /-- A control character stood in a text as itself. -/
  | controlCharacter (c : Char)
  /-- A backslash was followed by a character that it does not go with. -/
  | noEscape (c : Char)
  /-- A unit was not written in hexadecimal digits. -/
  | notHexadecimal (c : Char)
  /-- Units written by number held a surrogate without its partner. -/
  | loneSurrogate (units : List Nat)
  /-- A number had no digit before its point. -/
  | noWholePart
  /-- A number of two or more digits began with a zero. -/
  | leadingZero
  /-- A number had no digit after its point. -/
  | noFraction
  /-- A number had no digit in its exponent. -/
  | noExponent

/-- The text that names a cause. -/
def Cause.message : Cause → String
  | .unexpectedEnd => "Unexpected EOF"
  | .noValue c => s!"Invalid character: {Text.escapedAlone c}"
  | .trailing c => s!"Expected EOF but got character '{Text.escapedAlone c}'"
  | .misspelled letter word => s!"Unexpected character '{letter}' while parsing '{word}'"
  | .keyNotText key => s!"Key of object must be string but found {key.inspect}"
  | .noColon c => s!"':' is expected after key of object but actually found '{c}'"
  | .objectUnclosed c =>
      "',' or '\x7d' is expected for object but actually found '" ++ Text.escapedAlone c ++ "'"
  | .arrayUnclosed c => s!"',' or ']' is expected for array but actually found '{c}'"
  | .controlCharacter c => s!"String cannot contain control character {Text.escapedAlone c}"
  | .noEscape c => s!"'\\{c}' is invalid escaped character"
  | .notHexadecimal c =>
      s!"Unicode character must be \\uXXXX (X is hex character) format but found character '{c}'"
  | .loneSurrogate units =>
      "Invalid UTF-16 sequence [" ++ ", ".intercalate (units.map toString)
        ++ "]: invalid utf-16: lone surrogate found"
  | .noWholePart => "Integer part must not be empty in number literal"
  | .leadingZero => "Integer part of number must not start with 0 except for '0'"
  | .noFraction => "Fraction part of number must not be empty"
  | .noExponent => "Exponent part must not be empty in number literal"

/-- Why a text is not a document, and where this came to light. -/
structure ReadError where
  position : Text.Position
  cause : Cause

/-- The report of a failed reading. -/
def ReadError.message (e : ReadError) : String :=
  s!"Parse error at line:{e.position.line}, col:{e.position.column}: {e.cause.message}"

end StatusCodes.Json
