import StatusCodes.Text.Letters
import StatusCodes.Text.Unsigned

/-!
# Levels

A level says how much a record matters, and a limit admits the records up to a level. Levels are
ordered by verbosity: a record is within a limit when it is not more verbose. In a configuration a
level is given by its number, from 1 for errors to 5 for the finest detail, or by its name in any
letter case.
-/

namespace StatusCodes

/-- How much a record matters, the most important first. -/
inductive Level
  | error
  | warn
  | info
  | debug
  | trace
  deriving DecidableEq, Repr

namespace Level

/-- Every level, the most important first. -/
def all : List Level :=
  [.error, .warn, .info, .debug, .trace]

/-- The number of a level. Larger numbers are more verbose. -/
def verbosity : Level → Nat
  | .error => 1
  | .warn => 2
  | .info => 3
  | .debug => 4
  | .trace => 5

/-- The name of a level. -/
def name : Level → String
  | .error => "ERROR"
  | .warn => "WARN"
  | .info => "INFO"
  | .debug => "DEBUG"
  | .trace => "TRACE"

instance : LE Level where
  le a b := a.verbosity ≤ b.verbosity

instance (a b : Level) : Decidable (a ≤ b) :=
  inferInstanceAs (Decidable (a.verbosity ≤ b.verbosity))

/-- Whether a level is within a limit, if there is one. Without a limit no level is. -/
def isWithin (l : Level) (limit? : Option Level) : Bool :=
  limit?.any fun limit => l ≤ limit

/-- The finer of two limits. -/
def finer : Option Level → Option Level → Option Level
  | none, b? => b?
  | some a, none => some a
  | some a, some b => if a ≤ b then some b else some a

/-- The finest of some limits. -/
def finest (limits : List (Option Level)) : Option Level :=
  limits.foldl finer none

/-- The level with a given number. -/
def ofNumber? (n : Nat) : Option Level :=
  all.find? fun l => l.verbosity == n

/-- The level with a given name, in any letter case. -/
def ofName? (s : String) : Option Level :=
  all.find? fun l => Text.sameLetters l.name s

/-- The level that a text gives, by number or by name. -/
def ofText? (s : String) : Option Level :=
  match Text.unsigned? s.toList with
  | some n => ofNumber? n
  | none => ofName? s

theorem mem_all (l : Level) : l ∈ all := by
  cases l <;> decide

theorem le_trace (l : Level) : l ≤ .trace := by
  cases l <;> decide

theorem isWithin_finer (l : Level) (a? b? : Option Level) :
    l.isWithin (finer a? b?) = (l.isWithin a? || l.isWithin b?) := by
  cases a? with
  | none => rfl
  | some a =>
      cases b? with
      | none => simp [finer, isWithin]
      | some b => cases a <;> cases b <;> cases l <;> rfl

/-- What is within the finest of some limits is within one of them. -/
theorem isWithin_finest (l : Level) (limits : List (Option Level)) :
    l.isWithin (finest limits) = limits.any l.isWithin := by
  have hfold : ∀ best? : Option Level,
      l.isWithin (limits.foldl finer best?) = (l.isWithin best? || limits.any l.isWithin) := by
    induction limits with
    | nil => simp
    | cons limit? rest ih =>
        intro best?
        rw [List.foldl_cons, ih, isWithin_finer, List.any_cons, Bool.or_assoc]
  exact hfold none

/-- Every number has at most one level, and every level its number. -/
theorem ofNumber?_verbosity (l : Level) : ofNumber? l.verbosity = some l := by
  cases l <;> decide

@[simp] theorem ofText?_name (l : Level) : ofText? l.name = some l := by
  cases l <;> decide

end Level

end StatusCodes
