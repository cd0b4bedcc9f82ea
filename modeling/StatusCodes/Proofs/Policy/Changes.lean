import StatusCodes.Policy

/-!
# What is left of a list of changes

A policy is built by changes made one after the other. Of the overrides for a category only the
last one is left, a muted code stays muted, and the level of everything else is never touched.

So a policy is its starting level, the last override of each category and the set of muted codes,
and two lists of changes make the same policy exactly if they agree on these. Levels alone do not
tell as much: an override by the level that a category has anyway changes the policy and no level.
-/

namespace StatusCodes.Policy

/-- The level that a change gives a category. -/
def Change.override? (k : Category) : Change → Option Level
  | .category j l => if j = k then some l else none
  | .mute _ => none

theorem Change.override?_eq_some_iff {x : Change} {k : Category} {l : Level} :
    x.override? k = some l ↔ x = .category k l := by
  cases x with
  | category j m =>
      rw [override?, category.injEq]
      split
      · next hj => simp [hj]
      · next hj => simp [hj]
  | mute c => simp [override?]

/-- The level that a list of changes gives a category last. -/
def lastOverride? (changes : List Change) (k : Category) : Option Level :=
  changes.reverse.findSome? (Change.override? k)

theorem applyAll_cons (p : Policy) (x : Change) (changes : List Change) :
    p.applyAll (x :: changes) = (p.apply x).applyAll changes := rfl

theorem applyAll_append (p : Policy) (xs ys : List Change) :
    p.applyAll (xs ++ ys) = (p.applyAll xs).applyAll ys :=
  List.foldl_append

theorem lastOverride?_cons (x : Change) (changes : List Change) (k : Category) :
    lastOverride? (x :: changes) k = (lastOverride? changes k).or (x.override? k) := by
  rw [lastOverride?, List.reverse_cons, List.findSome?_append]
  cases h : x.override? k <;> simp [lastOverride?, h]

theorem lastOverride?_mem {changes : List Change} {k : Category} {l : Level}
    (h : lastOverride? changes k = some l) : .category k l ∈ changes := by
  obtain ⟨x, hx, hl⟩ := List.exists_of_findSome?_eq_some h
  rw [Change.override?_eq_some_iff.mp hl] at hx
  exact List.mem_reverse.mp hx

theorem lastOverride?_eq_none_iff {changes : List Change} {k : Category} :
    lastOverride? changes k = none ↔ ∀ l, .category k l ∉ changes := by
  rw [lastOverride?, List.findSome?_eq_none_iff]
  constructor
  · intro h l hl
    have hnone := h _ (List.mem_reverse.mpr hl)
    simp [Change.override?] at hnone
  · intro h x hx
    cases x with
    | category j l =>
        rw [Change.override?, if_neg]
        rintro rfl
        exact h l (List.mem_reverse.mp hx)
    | mute c => rfl

theorem lastOverride?_append (xs ys : List Change) (k : Category) :
    lastOverride? (xs ++ ys) k = (lastOverride? ys k).or (lastOverride? xs k) := by
  rw [lastOverride?, List.reverse_append, List.findSome?_append]
  rfl

/-- The last change for the category gives it this level. -/
def LastGives (changes : List Change) (k : Category) (l : Level) : Prop :=
  ∃ before after, changes = before ++ .category k l :: after ∧ ∀ l', .category k l' ∉ after

theorem lastOverride?_eq_some_iff {changes : List Change} {k : Category} {l : Level} :
    lastOverride? changes k = some l ↔ LastGives changes k l := by
  constructor
  · intro h
    induction changes with
    | nil => cases h
    | cons x changes ih =>
        rw [lastOverride?_cons] at h
        rcases Option.or_eq_some_iff.mp h with hlater | ⟨hnone, hx⟩
        · obtain ⟨before, after, rfl, hafter⟩ := ih hlater
          exact ⟨x :: before, after, rfl, hafter⟩
        · rw [Change.override?_eq_some_iff.mp hx]
          exact ⟨[], changes, rfl, lastOverride?_eq_none_iff.mp hnone⟩
  · rintro ⟨before, after, rfl, hafter⟩
    rw [lastOverride?_append, lastOverride?_cons, lastOverride?_eq_none_iff.mpr hafter,
      Change.override?_eq_some_iff.mpr rfl]
    rfl

theorem apply_override? (p : Policy) (x : Change) (k : Category) :
    (p.apply x).override? k = (x.override? k).or (p.override? k) := by
  cases x with
  | category j l =>
      by_cases h : j = k
      · simp [apply, withCategory, Change.override?, h]
      · simp [apply, withCategory, Change.override?, h, Ne.symm h]
  | mute c => rfl

theorem applyAll_override? (p : Policy) (changes : List Change) (k : Category) :
    (p.applyAll changes).override? k = (lastOverride? changes k).or (p.override? k) := by
  induction changes generalizing p with
  | nil => rfl
  | cons x changes ih =>
      rw [applyAll_cons, ih, apply_override?, lastOverride?_cons, Option.or_assoc]

theorem applyAll_isMuted (p : Policy) (changes : List Change) (c : Code) :
    (p.applyAll changes).isMuted c = true ↔ .mute c ∈ changes ∨ p.isMuted c = true := by
  induction changes generalizing p with
  | nil => simp [applyAll]
  | cons x changes ih =>
      rw [applyAll_cons, ih, List.mem_cons]
      cases x with
      | category k l => simp [apply, withCategory]
      | mute d =>
          simp only [apply, withMuted, Change.mute.injEq, Bool.or_eq_true, decide_eq_true_eq]
          rw [← or_assoc, or_comm (a := Change.mute c ∈ changes)]

@[simp] theorem applyAll_level (p : Policy) (changes : List Change) :
    (p.applyAll changes).level = p.level := by
  induction changes generalizing p with
  | nil => rfl
  | cons x changes ih =>
      rw [applyAll_cons, ih]
      cases x <;> rfl

theorem levelFor_eq_some_iff {p : Policy} {c : Code} {l : Level} :
    p.levelFor c = some l ↔
      c ≠ .success ∧ p.isMuted c ≠ true ∧ (p.ownLevel? c).getD p.level = l := by
  by_cases hc : c = .success
  · simp [hc]
  · by_cases hm : p.isMuted c = true
    · simp [levelFor, hm]
    · simp [levelFor, Code.isSuccess, hc, hm]

theorem levelFor_congr {p q : Policy} {c : Code} (hlevel : p.level = q.level)
    (hoverride : ∀ k, p.override? k = q.override? k) (hmuted : p.isMuted c = q.isMuted c) :
    p.levelFor c = q.levelFor c := by
  have howns : p.override? = q.override? := funext hoverride
  rw [levelFor, levelFor, ownLevel?, ownLevel?, hlevel, howns, hmuted]

/-! ## The policy that changes make -/

section

variable {start : Level} {changes : List Change} {c : Code}

theorem uniform_applyAll_override? (k : Category) :
    ((uniform start).applyAll changes).override? k = lastOverride? changes k := by
  rw [applyAll_override?, uniform, Option.or_none]

theorem uniform_applyAll_isMuted :
    ((uniform start).applyAll changes).isMuted c = true ↔ .mute c ∈ changes := by
  simp [applyAll_isMuted, uniform]

/-- The level of the last override for the category of the code, or the starting level if there is
no override for it. -/
def DecidesLevel (start : Level) (changes : List Change) (c : Code) (l : Level) : Prop :=
  ∃ k, c.category = some k ∧
    (LastGives changes k l ∨ (∀ l', .category k l' ∉ changes) ∧ l = start)

theorem decidesLevel_iff (hc : c ≠ .success) {l : Level} :
    (((uniform start).applyAll changes).ownLevel? c).getD start = l ↔
      DecidesLevel start changes c l := by
  obtain ⟨k, hk⟩ := Code.exists_category hc
  rw [ownLevel?, hk, Option.bind_some, uniform_applyAll_override?]
  simp only [DecidesLevel, hk, Option.some.injEq, exists_eq_left', ← lastOverride?_eq_some_iff,
    ← lastOverride?_eq_none_iff]
  cases lastOverride? changes k with
  | none => simp [eq_comm]
  | some m => simp

theorem levelFor_applyAll_eq_none_iff :
    ((uniform start).applyAll changes).levelFor c = none ↔ c = .success ∨ .mute c ∈ changes := by
  rw [levelFor_eq_none_iff, uniform_applyAll_isMuted]

theorem levelFor_applyAll_eq_some_iff {l : Level} :
    ((uniform start).applyAll changes).levelFor c = some l ↔
      c ≠ .success ∧ .mute c ∉ changes ∧ DecidesLevel start changes c l := by
  rw [levelFor_eq_some_iff, ne_eq (isMuted _ c), uniform_applyAll_isMuted, applyAll_level]
  exact and_congr_right fun hc => and_congr_right fun _ => decidesLevel_iff hc

/-- To mute a code makes a difference to this code alone, wherever it is done. -/
theorem levelFor_applyAll_mute {before after : List Change} {d : Code} (hd : d ≠ c) :
    ((uniform start).applyAll (before ++ .mute c :: after)).levelFor d =
      ((uniform start).applyAll (before ++ after)).levelFor d := by
  refine levelFor_congr ?_ ?_ ?_
  · rw [applyAll_level, applyAll_level]
  · intro k
    rw [uniform_applyAll_override?, uniform_applyAll_override?, lastOverride?_append,
      lastOverride?_append, lastOverride?_cons]
    simp only [Change.override?, Option.or_none]
  · rw [Bool.eq_iff_iff, uniform_applyAll_isMuted, uniform_applyAll_isMuted]
    simp [hd]

theorem uniform_applyAll_eq_iff {start' : Level} {changes' : List Change} :
    (uniform start).applyAll changes = (uniform start').applyAll changes' ↔
      start = start' ∧ (∀ k l, LastGives changes k l ↔ LastGives changes' k l) ∧
        ∀ c, .mute c ∈ changes ↔ .mute c ∈ changes' := by
  rw [ext_iff, applyAll_level, applyAll_level]
  refine and_congr Iff.rfl (and_congr (forall_congr' fun k => ?_) (forall_congr' fun c => ?_))
  · rw [uniform_applyAll_override?, uniform_applyAll_override?, Option.ext_iff]
    simp only [lastOverride?_eq_some_iff]
  · rw [Bool.eq_iff_iff, uniform_applyAll_isMuted, uniform_applyAll_isMuted]

end

/-- Of the changes to a policy the last override of each category and the set of muted codes are
left. A code has no level exactly if it is the success or was muted at some time, and no change
behind that gives it one again; to mute it makes no difference to another code. Any other code has
the level that its category was given last, or the starting level. Two policies are equal exactly
if they start from the same level and these remains of their changes agree, and then they have the
same level for every code. -/
theorem last_overrides_and_mutes_decide :
    (∀ start changes c,
      let p := (uniform start).applyAll changes
      (p.levelFor c = none ↔ c = .success ∨ .mute c ∈ changes) ∧
      ∀ l, p.levelFor c = some l ↔
        c ≠ .success ∧ .mute c ∉ changes ∧ DecidesLevel start changes c l) ∧
    (∀ start before c after,
      let p := (uniform start).applyAll (before ++ .mute c :: after)
      p.levelFor c = none ∧
      ∀ d, d ≠ c → p.levelFor d = ((uniform start).applyAll (before ++ after)).levelFor d) ∧
    ∀ start start' changes changes',
      let p := (uniform start).applyAll changes
      let q := (uniform start').applyAll changes'
      ((p == q) = true ↔
        start = start' ∧ (∀ k l, LastGives changes k l ↔ LastGives changes' k l) ∧
          ∀ c, .mute c ∈ changes ↔ .mute c ∈ changes') ∧
      ((p == q) = true → ∀ c, p.levelFor c = q.levelFor c) := by
  refine ⟨?_, ?_, ?_⟩
  · intro start changes c p
    exact ⟨levelFor_applyAll_eq_none_iff, fun l => levelFor_applyAll_eq_some_iff⟩
  · intro start before c after p
    refine ⟨levelFor_applyAll_eq_none_iff.mpr (.inr ?_), fun d hd => levelFor_applyAll_mute hd⟩
    exact List.mem_append_right _ List.mem_cons_self
  · intro start start' changes changes' p q
    rw [beq_iff_eq]
    refine ⟨uniform_applyAll_eq_iff, fun hsame c => ?_⟩
    rw [hsame]

/-- Equality of policies is finer than that of levels. -/
example :
    let p := standard.withCategory .device .warn
    (∀ c ∈ Code.all, p.levelFor c = standard.levelFor c) ∧ p ≠ standard := by
  decide

end StatusCodes.Policy
