/-!
# Positions in a text

A position is a line, counted from one, and the number of characters already read on it.
-/

namespace StatusCodes.Text

/-- How far a text has been read. -/
structure Position where
  line : Nat
  column : Nat
  deriving DecidableEq, Repr

namespace Position

/-- The beginning of a text. -/
def start : Position := ⟨1, 0⟩

/-- The position after one more character. -/
def advance (p : Position) (c : Char) : Position :=
  if c = '\n' then ⟨p.line + 1, 0⟩ else ⟨p.line, p.column + 1⟩

/-- The position after a text. -/
def after (text : List Char) : Position :=
  text.foldl advance start

@[simp] theorem after_nil : after [] = start := rfl

theorem after_append_singleton (text : List Char) (c : Char) :
    after (text ++ [c]) = (after text).advance c := by
  simp [after]

end Position

end StatusCodes.Text
