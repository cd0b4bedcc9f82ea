import StatusCodes.Propagation

/-!
# Routines stop at the first failure

Which steps fail, and with what, is laid down here for each kind of routine: a code or a fault
unless its code is that of success, a word if it is negative, and a result if it holds an error,
whatever the error is. A routine gets past its steps up to the first that fails, and what it returns
is the failure of that step, or its own answer if there is no such step.

This is shown by recursion over the steps for `run`, for any lawful status. A routine that answers
with a result does not go through `run`; it is shown to come to the same outcome as if it did, with
the last value that a step left behind as its answer. Everything that the four kinds of routine have
in common follows from `run` alone.
-/

namespace StatusCodes.Propagation

/-! ## Failures and what is made of them -/

/-- The failure of a step, if some values of its type fail by themselves. -/
def Step.failureIf (fails : φ → Bool) : Step φ → Option φ
  | .plain s => if fails s then some s else none
  | .result (.ok _) => none
  | .result (.error e) => some e

/-- The failures of codes. -/
def codeFailure (s : Step Code) : Option Code :=
  s.failureIf fun c => c ≠ .success

/-- The failures of codes and words. -/
def wordFailure : Step Code ⊕ Step Int32 → Option (Code ⊕ Int32)
  | .inl s => (codeFailure s).map .inl
  | .inr s => (s.failureIf fun w => w.toInt < 0).map .inr

/-- The failures of codes and faults. -/
def faultFailure : Step Code ⊕ Step Fault → Option (Code ⊕ Fault)
  | .inl s => (codeFailure s).map .inl
  | .inr s => (s.failureIf fun f => f.code ≠ .success).map .inr

/-- The failures of codes and results. -/
def resultFailure : Step Code ⊕ Except Fault Int64 → Option (Code ⊕ Fault)
  | .inl s => (codeFailure s).map .inl
  | .inr (.ok _) => none
  | .inr (.error f) => some (.inr f)

/-- A failure as a word: a code is handed on as its value. -/
def inWord (f : Code ⊕ Int32) : Int32 :=
  Sum.elim (fun c => Int32.ofInt c.value) id f

/-- The fault that has a code and no text. -/
def bare (c : Code) : Fault where
  code := c
  detail := .absent

/-- A failure as a fault: a code is handed on without a text. -/
def inFault (f : Code ⊕ Fault) : Fault :=
  Sum.elim bare id f

/-- A failure as a result, which holds it as a fault. -/
def inResult (f : Code ⊕ Fault) : Except Fault Int64 :=
  .error (inFault f)

/-- The value a step leaves behind when it is passed. -/
def value? : Step Code ⊕ Except Fault Int64 → Option Int64
  | .inl (.plain _) => none
  | .inl (.result r) => r.toOption
  | .inr r => r.toOption

/-- The value left behind by the last of the steps that leaves one, or the value at hand. -/
def lastValue (last : Int64) (steps : List (Step Code ⊕ Except Fault Int64)) : Int64 :=
  ((steps.filterMap value?).getLast?).getD last

/-- The routine gets past the steps before the first failure, and returns what that one hands on,
or its own answer if there is none. What comes behind the failure does not matter. -/
structure StopsAtFailure [Status σ φ] (failure : σ → Option φ) (hand : φ → ρ)
    (finished : List σ → ρ) (routine : List σ → Outcome ρ) : Prop where
  status : ∀ s, failure? s = failure s ∧ isError s = (failure s).isSome
  passed : ∀ steps, (routine steps).passed = (steps.takeWhile fun s => !isError s).length
  failed : ∀ steps s, steps[(routine steps).passed]? = some s →
    ∃ f, failure s = some f ∧ (routine steps).returned = hand f
  finished : ∀ steps, (routine steps).passed = steps.length →
    (routine steps).returned = finished steps
  rest : ∀ before s after after', isError s = true →
    routine (before ++ s :: after) = routine (before ++ s :: after')

/-! ## The rule -/

section

variable {σ φ τ ψ ρ ρ' : Type} [Status σ φ] [Status τ ψ] {hand : φ → ρ} {finished : ρ} {s : σ}

theorem isError_of_failure? [LawfulStatus σ] {f : φ} (h : failure? s = some f) :
    isError s = true := by
  rw [LawfulStatus.isError_eq, h, Option.isSome_some]

theorem isError_of_failure?_eq_none [LawfulStatus σ] (h : failure? s = none) :
    isError s = false := by
  rw [LawfulStatus.isError_eq, h, Option.isSome_none]

theorem run_cons_of_failure? {f : φ} (h : failure? s = some f) (rest : List σ) :
    run hand finished (s :: rest) = ⟨hand f, 0⟩ := by
  simp only [run, h]

theorem run_cons_of_passed (h : failure? s = none) (rest : List σ) :
    run hand finished (s :: rest) =
      ⟨(run hand finished rest).returned, (run hand finished rest).passed + 1⟩ := by
  simp only [run, h]

theorem run_passed [LawfulStatus σ] (steps : List σ) :
    (run hand finished steps).passed = (steps.takeWhile fun s => !isError s).length := by
  induction steps with
  | nil => rfl
  | cons s rest ih =>
      cases hs : failure? s with
      | some f =>
          rw [run_cons_of_failure? hs, List.takeWhile_cons, isError_of_failure? hs]
          rfl
      | none =>
          rw [run_cons_of_passed hs, List.takeWhile_cons, isError_of_failure?_eq_none hs]
          exact congrArg (· + 1) ih

/-- The step behind those that were passed is the one whose failure is handed on. -/
theorem run_returned {steps : List σ}
    (h : steps[(run hand finished steps).passed]? = some s) :
    ∃ f, failure? s = some f ∧ (run hand finished steps).returned = hand f := by
  induction steps with
  | nil => cases h
  | cons t rest ih =>
      cases ht : failure? t with
      | some f =>
          rw [run_cons_of_failure? ht] at h ⊢
          cases h
          exact ⟨f, ht, rfl⟩
      | none =>
          rw [run_cons_of_passed ht] at h ⊢
          rw [List.getElem?_cons_succ] at h
          exact ih h

theorem run_returned_of_passed_eq {steps : List σ}
    (h : (run hand finished steps).passed = steps.length) :
    (run hand finished steps).returned = finished := by
  induction steps with
  | nil => rfl
  | cons t rest ih =>
      cases ht : failure? t with
      | some f =>
          rw [run_cons_of_failure? ht] at h
          cases h
      | none =>
          rw [run_cons_of_passed ht] at h ⊢
          exact ih (Nat.succ.inj h)

/-- Nothing behind a failure matters, and neither does the answer of a routine that gets past every
step. -/
theorem run_append_cons_of_isError [LawfulStatus σ] (hs : isError s = true)
    (before after after' : List σ) (finished' : ρ) :
    run hand finished (before ++ s :: after) = run hand finished' (before ++ s :: after') := by
  induction before with
  | nil =>
      obtain ⟨f, hf⟩ : ∃ f, failure? s = some f := by
        rw [LawfulStatus.isError_eq] at hs
        exact Option.isSome_iff_exists.mp hs
      rw [List.nil_append, List.nil_append, run_cons_of_failure? hf, run_cons_of_failure? hf]
  | cons t before ih =>
      rw [List.cons_append, List.cons_append]
      cases ht : failure? t with
      | some f => rw [run_cons_of_failure? ht, run_cons_of_failure? ht]
      | none => rw [run_cons_of_passed ht, run_cons_of_passed ht, ih]

theorem run_stopsAtFailure [LawfulStatus σ] {failure : σ → Option φ}
    (hfailure : ∀ s, failure? s = failure s) (hand : φ → ρ) (finished : List σ → ρ) :
    StopsAtFailure failure hand finished fun steps => run hand (finished steps) steps where
  status s := ⟨hfailure s, hfailure s ▸ LawfulStatus.isError_eq s⟩
  passed _ := run_passed _
  failed _ s h := hfailure s ▸ run_returned h
  finished _ h := run_returned_of_passed_eq h
  rest before _ after after' h := run_append_cons_of_isError h before after after' _

/-- Steps of one kind among steps of two kinds. -/
theorem run_map_inl (hand : φ ⊕ ψ → ρ) (finished : ρ) (steps : List σ) :
    run hand finished (steps.map (Sum.inl : σ → σ ⊕ τ)) =
      run (fun f => hand (.inl f)) finished steps := by
  induction steps with
  | nil => rfl
  | cons s rest ih =>
      have hinl : failure? (Sum.inl s : σ ⊕ τ) = (failure? s).map .inl := rfl
      rw [List.map_cons]
      cases hs : failure? s with
      | some f =>
          rw [hs] at hinl
          rw [run_cons_of_failure? hs, run_cons_of_failure? hinl]
      | none =>
          rw [hs] at hinl
          rw [run_cons_of_passed hs, run_cons_of_passed hinl, ih]

/-- What is returned can be converted on the way or at the end. -/
theorem run_comp (hand : φ → ρ) (finished : ρ) (g : ρ → ρ') (steps : List σ) :
    run (fun f => g (hand f)) (g finished) steps =
      ⟨g (run hand finished steps).returned, (run hand finished steps).passed⟩ := by
  induction steps with
  | nil => rfl
  | cons s rest ih =>
      cases hs : failure? s with
      | some f => rw [run_cons_of_failure? hs, run_cons_of_failure? hs]
      | none => rw [run_cons_of_passed hs, run_cons_of_passed hs, ih]

end

/-! ## Routines that answer with a result -/

/-- A step hands on its failure, or leaves the value at hand or its own. -/
theorem advance_eq (last : Int64) (s : Step Code ⊕ Except Fault Int64) :
    (∃ f, failure? s = some f ∧ advance last s = inResult f) ∨
      failure? s = none ∧ advance last s = .ok ((value? s).getD last) := by
  cases s with
  | inl step =>
      cases step with
      | plain c => cases c <;> first | exact .inl ⟨_, rfl, rfl⟩ | exact .inr ⟨rfl, rfl⟩
      | result r =>
          cases r with
          | error c => exact .inl ⟨_, rfl, rfl⟩
          | ok v => exact .inr ⟨rfl, rfl⟩
  | inr r =>
      cases r with
      | error f => exact .inl ⟨_, rfl, rfl⟩
      | ok v => exact .inr ⟨rfl, rfl⟩

theorem lastValue_cons (last : Int64) (s : Step Code ⊕ Except Fault Int64)
    (rest : List (Step Code ⊕ Except Fault Int64)) :
    lastValue last (s :: rest) = lastValue ((value? s).getD last) rest := by
  rw [lastValue, lastValue, List.filterMap_cons]
  cases value? s with
  | none => rfl
  | some v =>
      rw [List.getLast?_cons, Option.getD_some, Option.getD_some]

theorem runFrom_eq_run (last : Int64) (steps : List (Step Code ⊕ Except Fault Int64)) :
    runFrom last steps = run inResult (.ok (lastValue last steps)) steps := by
  induction steps generalizing last with
  | nil => rfl
  | cons s rest ih =>
      rcases advance_eq last s with ⟨f, hf, hadvance⟩ | ⟨hpassed, hadvance⟩
      · rw [run_cons_of_failure? hf]
        simp only [runFrom, hadvance, inResult]
      · rw [run_cons_of_passed hpassed, lastValue_cons, ← ih]
        simp only [runFrom, hadvance]

/-! ## The four kinds -/

theorem failure?_code (s : Step Code) : failure? s = codeFailure s := by
  cases s with
  | plain c => cases c <;> rfl
  | result r => cases r <;> rfl

theorem failure?_word (s : Step Code ⊕ Step Int32) : failure? s = wordFailure s := by
  cases s with
  | inl s => exact congrArg (Option.map Sum.inl) (failure?_code s)
  | inr s =>
      refine congrArg (Option.map Sum.inr) ?_
      cases s with
      | plain w =>
          show (if w < 0 then some w else none) = if decide (w.toInt < 0) = true then some w else none
          simp only [Int32.lt_iff_toInt_lt, Int32.toInt_zero, decide_eq_true_eq]
      | result r => cases r <;> rfl

theorem failure?_fault (s : Step Code ⊕ Step Fault) : failure? s = faultFailure s := by
  cases s with
  | inl s => exact congrArg (Option.map Sum.inl) (failure?_code s)
  | inr s =>
      refine congrArg (Option.map Sum.inr) ?_
      cases s with
      | plain f =>
          show (if f.code.isError then some f else none) =
            if decide (f.code ≠ .success) = true then some f else none
          simp only [Code.isError_iff, decide_eq_true_eq]
      | result r => cases r <;> rfl

theorem failure?_result (s : Step Code ⊕ Except Fault Int64) : failure? s = resultFailure s := by
  cases s with
  | inl s => exact congrArg (Option.map Sum.inl) (failure?_code s)
  | inr r => cases r <;> rfl

theorem returningResult_eq :
    returningResult = fun steps => run inResult (.ok (lastValue 0 steps)) steps :=
  funext (runFrom_eq_run 0)

/-- A routine of any of the four kinds gets past exactly the steps before its first failure, and
returns that failure, converted to the type that it answers with, or its own answer for success if
there is none: the code of success, zero, a fault with the code of success and no text, or in a
result the last value that a step left behind, or zero. What comes behind the failure does not
matter. Given the same codes and results of codes, all four kinds stop at the same step and return
the same code: by itself, as its value, and as a fault without a text, alone or in a result. -/
theorem routines_stop_at_first_failure :
    StopsAtFailure codeFailure id (fun _ => .success) returningCode ∧
    StopsAtFailure wordFailure inWord (fun _ => 0) returningWord ∧
    StopsAtFailure faultFailure inFault (fun _ => { code := .success, detail := .absent })
      returningFault ∧
    StopsAtFailure resultFailure inResult (fun steps => .ok (lastValue 0 steps))
      returningResult ∧
    ∀ steps : List (Step Code),
      let o := returningCode steps
      returningWord (steps.map .inl) = ⟨Int32.ofInt o.returned.value, o.passed⟩ ∧
        returningFault (steps.map .inl) =
          ⟨{ code := o.returned, detail := .absent }, o.passed⟩ ∧
        (returningFault (steps.map .inl)).returned.text = "" ∧
        (returningResult (steps.map .inl)).passed = o.passed ∧
        (o.passed < steps.length → (returningResult (steps.map .inl)).returned =
          .error { code := o.returned, detail := .absent }) := by
  refine ⟨run_stopsAtFailure failure?_code _ _, run_stopsAtFailure failure?_word _ _,
    run_stopsAtFailure failure?_fault _ _, ?_, ?_⟩
  · rw [returningResult_eq]
    exact run_stopsAtFailure failure?_result _ _
  · intro steps o
    have hword : returningWord (steps.map .inl) = ⟨Int32.ofInt o.returned.value, o.passed⟩ :=
      (run_map_inl _ _ steps).trans (run_comp id Code.success Code.raw steps)
    have hfault : returningFault (steps.map .inl) = ⟨bare o.returned, o.passed⟩ :=
      (run_map_inl _ _ steps).trans (run_comp id Code.success Fault.ofCode steps)
    have hresult : returningResult (steps.map .inl) =
        run (fun c => inResult (.inl c)) (.ok (lastValue 0 (steps.map .inl))) steps := by
      rw [returningResult_eq]
      exact run_map_inl _ _ steps
    have hpassed : (returningResult (steps.map .inl)).passed = o.passed := by
      rw [hresult, run_passed]
      exact (run_passed steps).symm
    refine ⟨hword, hfault, ?_, hpassed, ?_⟩
    · rw [hfault]
      rfl
    · intro hlt
      -- The step that both stopped at has one failure, and both return it.
      obtain ⟨s, hs⟩ : ∃ s, steps[o.passed]? = some s := ⟨_, List.getElem?_eq_getElem hlt⟩
      obtain ⟨f, hf, hreturned⟩ : ∃ f, failure? s = some f ∧ o.returned = id f := run_returned hs
      rw [hresult] at hpassed ⊢
      obtain ⟨f', hf', hreturned'⟩ := run_returned (hpassed ▸ hs)
      rw [hf] at hf'
      cases hf'
      rw [hreturned', hreturned]
      rfl

/-- A positive word is no failure, and a result with an error is one even if the error is none. -/
example : returningWord [.inr (.plain 5), .inl (.result (.error .success)), .inr (.plain (-3))] =
    ⟨0, 1⟩ := by
  decide

end StatusCodes.Propagation
