import StatusCodes.Json.Reader

/-!
# Getting from one state of the reader to another

Positions matter only once reading fails. As long as it does not, a text simply takes the reader
from one state to another, and texts that do so one after the other can be put together.
-/

namespace StatusCodes.Json.Reader

/-- The text takes the reader from one state to another, wherever it stands in the document. -/
def Takes (r : Reader) (text : List Char) (r' : Reader) : Prop :=
  ∀ p, run p r text = .ok r'

theorem Takes.nil (r : Reader) : Takes r [] r :=
  fun _ => rfl

theorem Takes.cons {r r' r'' : Reader} {c : Char} {text : List Char} (h : r.step c = .ok r')
    (ht : Takes r' text r'') : Takes r (c :: text) r'' := by
  intro p
  rw [run, h]
  exact ht (p.advance c)

theorem Takes.one {r r' : Reader} {c : Char} (h : r.step c = .ok r') : Takes r [c] r' :=
  .cons h (.nil r')

theorem Takes.append {r r' r'' : Reader} {a b : List Char} (ha : Takes r a r')
    (hb : Takes r' b r'') : Takes r (a ++ b) r'' := by
  intro p
  rw [run_append, ha p]
  exact hb _

/-- Where a text stands has no part in where it takes the reader. -/
theorem takes_of_run {p : Text.Position} {r r' : Reader} {text : List Char}
    (h : run p r text = .ok r') : Takes r text r' := by
  induction text generalizing p r with
  | nil =>
      intro q
      exact h
  | cons c text ih =>
      rw [run] at h
      cases hstep : r.step c with
      | ok s =>
          rw [hstep] at h
          exact .cons hstep (ih h)
      | error e =>
          rw [hstep] at h
          cases h

theorem Takes.unique {r r' r'' : Reader} {text : List Char} (h : Takes r text r')
    (h' : Takes r text r'') : r' = r'' := by
  have hsame := (h .start).symm.trans (h' .start)
  exact Except.ok.inj hsame

theorem Takes.step_of_cons {r r'' : Reader} {c : Char} {text : List Char}
    (h : Takes r (c :: text) r'') : ∃ r', r.step c = .ok r' ∧ Takes r' text r'' := by
  have hrun := h .start
  rw [run] at hrun
  cases hstep : r.step c with
  | ok r' =>
      rw [hstep] at hrun
      exact ⟨r', rfl, takes_of_run hrun⟩
  | error e =>
      rw [hstep] at hrun
      cases hrun

/-- What every character of a text keeps true of the state, the whole text keeps true of it. -/
theorem Takes.keeps {P : Reader → Prop} {r r' : Reader} {text : List Char}
    (hstep : ∀ c ∈ text, ∀ s s', P s → s.step c = .ok s' → P s') (h : P r)
    (ht : Takes r text r') : P r' := by
  induction text generalizing r with
  | nil =>
      have hsame : r' = r := ht.unique (.nil r)
      rw [hsame]
      exact h
  | cons c text ih =>
      obtain ⟨s, hs, hrest⟩ := ht.step_of_cons
      have hkept : P s := hstep c List.mem_cons_self r s h hs
      exact ih (fun d hd => hstep d (List.mem_cons_of_mem c hd)) hkept hrest

theorem Takes.divide {r r'' : Reader} {a b : List Char} (h : Takes r (a ++ b) r'') :
    ∃ r', Takes r a r' ∧ Takes r' b r'' := by
  have hrun := h .start
  rw [run_append] at hrun
  cases ha : run .start r a with
  | ok r' =>
      rw [ha] at hrun
      exact ⟨r', takes_of_run ha, takes_of_run hrun⟩
  | error e =>
      rw [ha] at hrun
      cases hrun

/-- A document is read to the end when its text takes the reader from the start to a state that
can be the last one. -/
theorem parse_of_takes {text : String} {r : Reader} {v : Json} (h : Takes start text.toList r)
    (hr : r.finish = .ok v) : parse text = .ok v := by
  rw [parse, h .start]
  simp only [hr]

theorem takes_of_parse {text : String} {v : Json} (h : parse text = .ok v) :
    ∃ r, Takes start text.toList r ∧ r.finish = .ok v := by
  rw [parse] at h
  cases hrun : start.run .start text.toList with
  | ok r =>
      rw [hrun] at h
      cases hfinish : r.finish with
      | ok w =>
          simp only [hfinish] at h
          cases h
          exact ⟨r, takes_of_run hrun, hfinish⟩
      | error cause =>
          simp only [hfinish] at h
          cases h
  | error e =>
      rw [hrun] at h
      cases h

end StatusCodes.Json.Reader
