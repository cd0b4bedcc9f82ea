import StatusCodes.Code
import StatusCodes.Level

/-!
# Faults

A fault is what a fallible operation hands back: a code for the caller to branch on and a text
for a person to read. The text may be absent, which is not the same as empty: an absent text is
filled in from the code's description when the fault is shown, an empty one is shown as it is.

Texts written down in the program and texts composed at run time are kept apart, and faults that
differ only in this are different faults.
-/

namespace StatusCodes

/-- Where the text of a fault comes from. -/
inductive Detail
  /-- No text was given. -/
  | absent
  /-- A text written down in the program. -/
  | fixed (text : String)
  /-- A text put together when the fault arose. -/
  | composed (text : String)
  deriving DecidableEq, Repr

/-- A code with an optional text. -/
structure Fault where
  code : Code
  detail : Detail
  deriving DecidableEq, Repr

namespace Fault

/-- A fault without a text. -/
def ofCode (c : Code) : Fault := ⟨c, .absent⟩

/-- A fault with a text known beforehand. -/
def fixed (c : Code) (text : String) : Fault := ⟨c, .fixed text⟩

/-- A fault with a text made for the occasion. -/
def composed (c : Code) (text : String) : Fault := ⟨c, .composed text⟩

/-- The category of the fault's code. -/
def category (f : Fault) : Option Category := f.code.category

/-- The text as given, empty if none was. -/
def text (f : Fault) : String :=
  match f.detail with
  | .absent => ""
  | .fixed t => t
  | .composed t => t

/-- The code's name followed by the text, or by the description if there is no text. -/
def display (f : Fault) : String :=
  match f.detail with
  | .absent => s!"{f.code.name}: {f.code.description}"
  | .fixed t => s!"{f.code.name}: {t}"
  | .composed t => s!"{f.code.name}: {t}"

@[simp] theorem code_ofCode (c : Code) : (ofCode c).code = c := rfl
@[simp] theorem code_fixed (c : Code) (t : String) : (fixed c t).code = c := rfl
@[simp] theorem code_composed (c : Code) (t : String) : (composed c t).code = c := rfl
@[simp] theorem text_ofCode (c : Code) : (ofCode c).text = "" := rfl
@[simp] theorem text_fixed (c : Code) (t : String) : (fixed c t).text = t := rfl
@[simp] theorem text_composed (c : Code) (t : String) : (composed c t).text = t := rfl

end Fault

/-- A name or a number that stands for nothing in the tables. -/
inductive Unknown
  | codeName (name : String)
  | category (token : String)
  | value (word : Int32)
  | level (name : String)
  deriving DecidableEq, Repr

namespace Unknown

/-- The text that quotes what was not found. -/
def message : Unknown → String
  | .codeName name => s!"unknown error code name '{name}'"
  | .category token => s!"unknown error category '{token}'"
  | .value word => s!"{word.toInt} is not a known error code"
  | .level name => s!"unknown log level '{name}'"

/-- To ask for something unknown is to pass a wrong parameter. -/
def fault (u : Unknown) : Fault :=
  .composed .genInvalidParam u.message

end Unknown

/-- Read a code name. -/
def Code.parse (s : String) : Except Unknown Code :=
  match ofName? s with
  | some c => .ok c
  | none => .error (.codeName s)

/-- Read a 32-bit word as the value of a code. -/
def Code.ofWord (w : Int32) : Except Unknown Code :=
  match ofValue? w.toInt with
  | some c => .ok c
  | none => .error (.value w)

/-- Read a category token, in any letter case. -/
def Category.parse (s : String) : Except Unknown Category :=
  match ofToken? s with
  | some k => .ok k
  | none => .error (.category s)

/-- Read a level, by number or by name. -/
def Level.parse (s : String) : Except Unknown Level :=
  match ofText? s with
  | some l => .ok l
  | none => .error (.level s)

end StatusCodes
