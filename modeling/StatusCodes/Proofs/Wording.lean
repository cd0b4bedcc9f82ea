import StatusCodes.Proofs.Report

/-!
# What is said of a fault

A fault is shown to whoever holds it, and its message goes into the log. Both give the text of the
fault, or what its code means if there is none, but they do not mean the same by that. Showing asks
whether a text was given, and the log whether the text has any characters. So the two say the same
of every fault but one that was given an empty text: of this the log says what its code means, and
it is shown with nothing behind its name.
-/

namespace StatusCodes

theorem Code.description_ne_empty (c : Code) : c.description ≠ "" := by
  cases c <;> decide

namespace Fault

variable {f : Fault}

/-- A text was given, and it is empty. -/
def GivenEmpty (f : Fault) : Prop :=
  f.detail = .fixed "" ∨ f.detail = .composed ""

/-- What stands behind the name of the code when the fault is shown. -/
def shownText (f : Fault) : String :=
  if f.detail = .absent then f.code.description else f.text

theorem display_eq (f : Fault) : f.display = f.code.name ++ ": " ++ f.shownText := by
  obtain ⟨c, detail⟩ := f
  cases detail <;> rfl

theorem display_eq_iff {t : String} :
    f.display = f.code.name ++ ": " ++ t ↔ f.shownText = t := by
  rw [display_eq, String.append_right_inj]

theorem text_of_givenEmpty (h : f.GivenEmpty) : f.detail ≠ .absent ∧ f.text = "" := by
  rcases h with h | h <;> rw [text, h] <;> exact ⟨Detail.noConfusion, rfl⟩

theorem shownText_of_givenEmpty (h : f.GivenEmpty) : f.shownText = "" := by
  obtain ⟨hgiven, htext⟩ := text_of_givenEmpty h
  rw [shownText, if_neg hgiven, htext]

theorem message_of_givenEmpty (h : f.GivenEmpty) : f.message = f.code.description :=
  if_pos (text_of_givenEmpty h).2

/-- A missing text is filled in by both, and a text with characters by neither. -/
theorem shownText_of_not_givenEmpty (h : ¬ f.GivenEmpty) : f.shownText = f.message := by
  obtain ⟨c, detail⟩ := f
  cases detail with
  | absent => rfl
  | fixed t =>
      have ht : t ≠ "" := by
        rintro rfl
        exact h (.inl rfl)
      exact (if_neg ht).symm
  | composed t =>
      have ht : t ≠ "" := by
        rintro rfl
        exact h (.inr rfl)
      exact (if_neg ht).symm

theorem shownText_eq_message_iff : f.shownText = f.message ↔ ¬ f.GivenEmpty := by
  refine ⟨fun hsame hempty => ?_, shownText_of_not_givenEmpty⟩
  rw [shownText_of_givenEmpty hempty, message_of_givenEmpty hempty] at hsame
  exact f.code.description_ne_empty hsame.symm

/-- Under a policy that has a fault reported, the fault is shown as the name of its code followed by
the message of its record, unless it was given an empty text. A fault with an empty text is shown as
the name alone, and its record says what the code means. -/
theorem display_says_message_iff {p : Policy} {f : Fault} {level : Level}
    (h : p.levelFor f.code = some level) (context : String) :
    ∃ r, (p.reportFault f context).record? = some r ∧
      (f.display = f.code.name ++ ": " ++ r.message ↔ ¬ f.GivenEmpty) ∧
      (f.GivenEmpty → f.display = f.code.name ++ ": " ∧ r.message = f.code.description) := by
  refine ⟨.failure level f.code f.message context, ?_, ?_, ?_⟩
  · rw [Policy.reportFault, Policy.emit_eq, Policy.record?, h]
    rfl
  · exact display_eq_iff.trans shownText_eq_message_iff
  · intro hempty
    refine ⟨?_, message_of_givenEmpty hempty⟩
    rw [display_eq, shownText_of_givenEmpty hempty, String.append_empty]

/-- A fault with a text is shown with the message of its record, and so is one without. -/
theorem display_says_message_with_and_without_text :
    ∃ r r', (Policy.standard.reportFault (.composed .fsAccess "/boot") "").record? = some r ∧
      (Policy.standard.reportFault (.ofCode .fsAccess) "").record? = some r' ∧
      (composed .fsAccess "/boot").display = "ERR_FS_ACCESS: " ++ r.message ∧
      (ofCode .fsAccess).display = "ERR_FS_ACCESS: " ++ r'.message := by
  have hlevel : Policy.standard.levelFor .fsAccess = some .warn := rfl
  obtain ⟨r, hr, hsays, -⟩ := display_says_message_iff (f := composed .fsAccess "/boot") hlevel ""
  obtain ⟨r', hr', hsays', -⟩ := display_says_message_iff (f := ofCode .fsAccess) hlevel ""
  exact ⟨r, r', hr, hr', hsays.mpr (by simp [GivenEmpty, composed]),
    hsays'.mpr (by simp [GivenEmpty, ofCode])⟩

/-- An empty text is shown as it is, and the log does not have it. -/
theorem empty_text_shown_but_not_logged :
    ¬ ∀ (p : Policy) (f : Fault) (context : String) (r : Record),
      (p.reportFault f context).record? = some r →
        f.display = f.code.name ++ ": " ++ r.message := by
  intro h
  have hsays := h .standard (.composed .fsIo "") "" _ rfl
  exact absurd hsays (by decide)

end Fault

end StatusCodes
