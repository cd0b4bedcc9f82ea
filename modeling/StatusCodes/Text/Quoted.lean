import StatusCodes.Text.Hidden

/-!
# Quoting texts for a reader

Messages quote characters and texts from a document. Quotation marks, backslashes and line breaks
are written with a backslash, hidden characters by number, everything else as it is. Inside a
quoted text the apostrophe needs no backslash, since double quotes surround it; a character quoted
by itself has one.
-/

namespace StatusCodes.Text

/-- The number of a character in the smallest number of small hexadecimal digits. -/
def hex (c : Char) : String :=
  String.ofList (Nat.toDigits 16 c.toNat)

/-- A character as it stands in a quoted text. -/
def escaped (c : Char) : String :=
  match c with
  | '\x00' => "\\0"
  | '\t' => "\\t"
  | '\r' => "\\r"
  | '\n' => "\\n"
  | '"' => "\\\""
  | '\\' => "\\\\"
  | _ => if isHidden c then "\\u\x7b" ++ hex c ++ "\x7d" else c.toString

/-- A character quoted by itself. -/
def escapedAlone (c : Char) : String :=
  if c = '\'' then "\\'" else escaped c

/-- A text in quotation marks. -/
def quoted (s : String) : String :=
  "\"" ++ String.join (s.toList.map escaped) ++ "\""

end StatusCodes.Text
