import StatusCodes.Proofs.Propagation

/-!
# What a caller sees of an early return

A routine that stops at a failure hands it on, and its caller asks the answer, and not the routine,
whether anything failed. The two agree as long as what is handed on is a failure by itself. A code,
a word or a fault that fails is one, and converting it keeps it one. But a result fails because it
holds an error, whatever the error is, and the error alone is handed on. So the caller of a routine
that stopped at such a result may be told of a success, and this is the only way in which that can
happen.
-/

namespace StatusCodes.Propagation

/-- Whether a step is a result whose error denotes no failure by itself. -/
def Step.isHollow [Status φ φ] : Step φ → Bool
  | .plain _ => false
  | .result (.ok _) => false
  | .result (.error e) => !isError e

/-- The answer of a routine tells its caller whether it returned early. What a step hands on is a
failure unless the step is hollow. So the answer is a failure exactly if there is a step that the
routine did not get past and the first such step is not hollow, and if no step is hollow, exactly
if the routine did not get past every step. -/
structure TellsCaller [Status σ φ] [Status ρ ψ] (hand : φ → ρ) (hollow : σ → Bool)
    (routine : List σ → Outcome ρ) : Prop where
  handed : ∀ s f, failure? s = some f → isError (hand f) = !hollow s
  stopped : ∀ steps, isError (routine steps).returned = true ↔
    ∃ s, steps[(routine steps).passed]? = some s ∧ hollow s = false
  early : ∀ steps, (∀ s ∈ steps, hollow s = false) →
    (isError (routine steps).returned = true ↔ (routine steps).passed < steps.length)

/-! ## What is handed on -/

/-- If a status that stands by itself hands on itself, then a step hands on a failure unless it is
hollow. -/
theorem isError_of_failure?_step [Status φ φ] [LawfulStatus φ]
    (hself : ∀ s f : φ, failure? s = some f → f = s) {s : Step φ} {f : φ}
    (h : failure? s = some f) : isError f = !s.isHollow := by
  cases s with
  | plain t =>
      have hf : f = t := hself t f h
      subst hf
      exact isError_of_failure? (s := f) h
  | result r =>
      cases r with
      | ok v => cases h
      | error e =>
          cases h
          rw [Step.isHollow, Bool.not_not]

theorem eq_of_guarded {α : Type} {p : Prop} [Decidable p] {a b : α}
    (h : (if p then some a else none) = some b) : b = a := by
  obtain ⟨-, hab⟩ := Option.ite_none_right_eq_some.mp h
  exact (Option.some.inj hab).symm

theorem isError_raw (c : Code) : isError c.raw = isError c := by
  cases c <;> decide

/-! ## The rule -/

section

variable {σ φ ρ ψ : Type} [Status σ φ] [Status ρ ψ] {hand : φ → ρ} {finished : ρ}
  {hollow : σ → Bool}

theorem run_passed_le [LawfulStatus σ] (steps : List σ) :
    (run hand finished steps).passed ≤ steps.length := by
  rw [run_passed]
  exact (List.takeWhile_sublist _).length_le

theorem isError_returned_iff [LawfulStatus σ]
    (hhand : ∀ s f, failure? s = some f → isError (hand f) = !hollow s)
    (hfinished : isError finished = false) (steps : List σ) :
    isError (run hand finished steps).returned = true ↔
      ∃ s, steps[(run hand finished steps).passed]? = some s ∧ hollow s = false := by
  cases hstop : steps[(run hand finished steps).passed]? with
  | none =>
      -- Only a routine that got past every step has no step to stop at.
      have hall : (run hand finished steps).passed = steps.length :=
        Nat.le_antisymm (run_passed_le steps) (List.getElem?_eq_none_iff.mp hstop)
      rw [run_returned_of_passed_eq hall, hfinished]
      simp
  | some s =>
      obtain ⟨f, hf, hreturned⟩ := run_returned hstop
      rw [hreturned, hhand s f hf]
      simp

theorem run_tellsCaller [LawfulStatus σ]
    (hhand : ∀ s f, failure? s = some f → isError (hand f) = !hollow s)
    (hfinished : isError finished = false) : TellsCaller hand hollow (run hand finished) where
  handed := hhand
  stopped := isError_returned_iff hhand hfinished
  early steps hsteps := by
    rw [isError_returned_iff hhand hfinished]
    constructor
    · rintro ⟨s, hs, -⟩
      exact (List.getElem?_eq_some_iff.mp hs).1
    · intro hlt
      exact ⟨_, List.getElem?_eq_getElem hlt, hsteps _ (List.getElem_mem hlt)⟩

end

/-! ## The three kinds -/

theorem isError_of_failure?_either {ψ χ : Type} [Status ψ ψ] [Status χ χ] [Status ρ ω]
    {hand : ψ ⊕ χ → ρ}
    (hleft : ∀ (s : Step ψ) f, failure? s = some f → isError (hand (.inl f)) = !s.isHollow)
    (hright : ∀ (s : Step χ) f, failure? s = some f → isError (hand (.inr f)) = !s.isHollow)
    (s : Step ψ ⊕ Step χ) (f : ψ ⊕ χ) (h : failure? s = some f) :
    isError (hand f) = !Sum.elim Step.isHollow Step.isHollow s := by
  cases s with
  | inl s =>
      obtain ⟨g, hg, rfl⟩ := Option.map_eq_some_iff.mp h
      exact hleft s g hg
  | inr s =>
      obtain ⟨g, hg, rfl⟩ := Option.map_eq_some_iff.mp h
      exact hright s g hg

/-- A routine that answers with a code, a word or a fault tells its caller whether it returned
early, unless the step it stopped at is a result with an error that is no failure by itself: the
code of success, a word that is not negative, or a fault with the code of success. -/
theorem early_return_tells_caller :
    TellsCaller id Step.isHollow returningCode ∧
    TellsCaller (Sum.elim Code.raw id) (Sum.elim Step.isHollow Step.isHollow) returningWord ∧
    TellsCaller (Sum.elim Fault.ofCode id) (Sum.elim Step.isHollow Step.isHollow)
      returningFault := by
  have hcode : ∀ (s : Step Code) c, failure? s = some c → isError c = !s.isHollow :=
    fun s c h => isError_of_failure?_step (fun _ _ hself => eq_of_guarded hself) h
  have hword : ∀ (s : Step Int32) w, failure? s = some w → isError w = !s.isHollow :=
    fun s w h => isError_of_failure?_step (fun _ _ hself => eq_of_guarded hself) h
  have hfault : ∀ (s : Step Fault) f, failure? s = some f → isError f = !s.isHollow :=
    fun s f h => isError_of_failure?_step (fun _ _ hself => eq_of_guarded hself) h
  refine ⟨run_tellsCaller hcode rfl, run_tellsCaller ?_ rfl, run_tellsCaller ?_ rfl⟩
  · refine isError_of_failure?_either ?_ hword
    intro s c h
    exact (isError_raw c).trans (hcode s c h)
  · -- The fault made of a code is a failure exactly if the code is one.
    exact isError_of_failure?_either hcode hfault

/-- A result with the code of success as its error ends the routine, and the step behind it is left
out, but the caller is told of a success. The same happens with a word and with a fault. -/
theorem hollow_results_hide_early_return :
    (¬ ∀ steps, isError (returningCode steps).returned = true ↔
      (returningCode steps).passed < steps.length) ∧
    (¬ ∀ steps, isError (returningWord steps).returned = true ↔
      (returningWord steps).passed < steps.length) ∧
    ¬ ∀ steps, isError (returningFault steps).returned = true ↔
      (returningFault steps).passed < steps.length := by
  refine ⟨?_, ?_, ?_⟩
  · intro h
    have hstopped := (h [.result (.error .success), .plain .fsIo]).mpr (by decide)
    cases hstopped
  · intro h
    have hstopped := (h [.inr (.result (.error 5)), .inl (.plain .fsIo)]).mpr (by decide)
    cases hstopped
  · intro h
    have hstopped :=
      (h [.inr (.result (.error (.ofCode .success))), .inl (.plain .fsIo)]).mpr (by decide)
    cases hstopped

end StatusCodes.Propagation
