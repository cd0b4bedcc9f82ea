import StatusCodes.Text.Space

/-!
# How a pattern is read

A pattern can change by flags how its rest is read, up to the end of the group the flags stand in:
whether its items are characters or bytes, whether letters of either case are the same, and
whether white space is passed over, and with it comments, which begin with a number sign and end
with their line. Other flags change what a pattern means and not what is one.
-/

namespace StatusCodes.Pattern

/-- How a pattern is read. -/
structure Mode where
  /-- White space and comments are passed over. -/
  spaced : Bool
  /-- Letters of either case are the same. -/
  caseless : Bool
  /-- Items are characters. Otherwise they are bytes. -/
  unicode : Bool
  deriving DecidableEq, Repr

namespace Mode

/-- How a pattern is read at its beginning. -/
def standard : Mode := ⟨false, false, true⟩

/-- A text without the white space and the comments that it begins with. -/
def afterSpace (inComment : Bool) : List Char → List Char
  | [] => []
  | c :: rest =>
      if inComment then afterSpace (c != '\n') rest
      else if Text.isSpace c then afterSpace false rest
      else if c = '#' then afterSpace true rest
      else c :: rest

/-- What comes next, with nothing left that is passed over. -/
def skip (m : Mode) (text : List Char) : List Char :=
  if m.spaced then afterSpace false text else text

/-- The character that decides whether a hyphen makes a range: the next one that is not white
space. The sign that begins a comment is passed over, and the comment is not. -/
def peek? (m : Mode) (text : List Char) : Option Char :=
  if m.spaced then
    match text.dropWhile Text.isSpace with
    | '#' :: rest => (rest.dropWhile Text.isSpace).head?
    | rest => rest.head?
  else text.head?

/-- The mode with a flag turned on or off. -/
def set (m : Mode) (on : Bool) (flag : Char) : Mode :=
  match flag with
  | 'x' => { m with spaced := on }
  | 'i' => { m with caseless := on }
  | 'u' => { m with unicode := on }
  | _ => m

/-- The mode with flags turned on, and those behind a hyphen turned off. -/
def apply (m : Mode) (on : Bool) : List Char → Mode
  | [] => m
  | c :: rest => if c = '-' then m.apply false rest else (m.set on c).apply on rest

/-- Whether a text is a list of flags: each at most once, and some behind the hyphen if there is
one. -/
def areFlags (text : List Char) : Bool :=
  text.all ("imsUuRx-".toList.contains ·) && decide text.Nodup && text.getLast? != some '-'

end Mode

end StatusCodes.Pattern
