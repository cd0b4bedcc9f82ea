/-!
# Stretches of a text

A place in a text is the number of bytes before it, when the text is encoded in UTF-8. A stretch is
what stands between two places. A place inside a character is no place, so a stretch that begins
or ends there cannot be read.
-/

namespace StatusCodes.Text

/-- The number of bytes of a text. -/
def byteLength : List Char → Nat
  | [] => 0
  | c :: rest => c.utf8Size + byteLength rest

/-- What stands behind a place. -/
def behind? : List Char → Nat → Option (List Char)
  | text, 0 => some text
  | [], _ + 1 => none
  | c :: rest, n + 1 => if c.utf8Size ≤ n + 1 then behind? rest (n + 1 - c.utf8Size) else none

/-- What stands before a place. -/
def before? : List Char → Nat → Option (List Char)
  | _, 0 => some []
  | [], _ + 1 => none
  | c :: rest, n + 1 =>
      if c.utf8Size ≤ n + 1 then (before? rest (n + 1 - c.utf8Size)).map (c :: ·) else none

/-- Two places in a text, or one place and the end of the text. -/
structure Stretch where
  start : Nat
  stop? : Option Nat
  deriving DecidableEq, Repr

/-- What a text holds between the places of a stretch. -/
def Stretch.read? (s : Stretch) (text : List Char) : Option (List Char) :=
  (behind? text s.start).bind fun rest =>
    match s.stop? with
    | none => some rest
    | some stop => before? rest (stop - s.start)

end StatusCodes.Text
