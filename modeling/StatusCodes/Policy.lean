import StatusCodes.Code
import StatusCodes.Level

/-!
# Report policies

A policy decides at which level a failure is reported, or that it is not. It has a level for every
failure, levels that replace it for whole categories, and codes that are never reported. Success
is never reported either.

A policy is nothing but these three functions. Two policies are equal when they agree on each of
them, so a category whose level is replaced by the same level still tells two policies apart.
-/

namespace StatusCodes

/-- At which level failures are reported. -/
structure Policy where
  /-- The level of a failure whose category has none of its own. -/
  level : Level
  /-- The level of a category. -/
  override? : Category → Option Level
  /-- Whether a code is never reported. -/
  isMuted : Code → Bool

namespace Policy

/-- Report every failure at one level. -/
def uniform (level : Level) : Policy where
  level := level
  override? _ := none
  isMuted _ := false

/-- Report every failure as a warning. -/
def standard : Policy := uniform .warn

/-- Give a category its own level. -/
def withCategory (p : Policy) (k : Category) (l : Level) : Policy :=
  { p with override? := fun j => if j = k then some l else p.override? j }

/-- Never report a code. -/
def withMuted (p : Policy) (c : Code) : Policy :=
  { p with isMuted := fun d => d = c || p.isMuted d }

/-- The level that a code's category has of its own. -/
def ownLevel? (p : Policy) (c : Code) : Option Level :=
  c.category.bind p.override?

/-- The level at which a code is reported, if it is. -/
def levelFor (p : Policy) (c : Code) : Option Level :=
  if c.isSuccess || p.isMuted c then none else some ((p.ownLevel? c).getD p.level)

/-- A change to a policy. -/
inductive Change
  | category (k : Category) (l : Level)
  | mute (c : Code)
  deriving DecidableEq, Repr

/-- The policy after a change. -/
def apply (p : Policy) : Change → Policy
  | .category k l => p.withCategory k l
  | .mute c => p.withMuted c

/-- The policy after a list of changes, made in order. -/
def applyAll (p : Policy) (changes : List Change) : Policy :=
  changes.foldl apply p

theorem ext_iff {p q : Policy} :
    p = q ↔ p.level = q.level ∧ (∀ k, p.override? k = q.override? k) ∧
      ∀ c, p.isMuted c = q.isMuted c := by
  constructor
  · rintro rfl
    exact ⟨rfl, fun _ => rfl, fun _ => rfl⟩
  · obtain ⟨l, o, m⟩ := p
    obtain ⟨l', o', m'⟩ := q
    rintro ⟨hl, ho, hm⟩
    obtain rfl : l = l' := hl
    obtain rfl : o = o' := funext ho
    obtain rfl : m = m' := funext hm
    rfl

/-- There are finitely many categories and codes, so policies can be compared. -/
instance : DecidableEq Policy := fun p q =>
  decidable_of_iff
    (p.level = q.level ∧ (∀ k ∈ Category.all, p.override? k = q.override? k) ∧
      ∀ c ∈ Code.all, p.isMuted c = q.isMuted c)
    (by simp [ext_iff, Category.mem_all, Code.mem_all])

/-- A success is never reported. -/
@[simp] theorem levelFor_success (p : Policy) : p.levelFor .success = none := rfl

theorem levelFor_eq_none_iff {p : Policy} {c : Code} :
    p.levelFor c = none ↔ c = .success ∨ p.isMuted c = true := by
  by_cases h : c = .success <;> simp [levelFor, Code.isSuccess, h]

end Policy

end StatusCodes
