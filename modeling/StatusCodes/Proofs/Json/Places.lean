import Mathlib.Data.List.Induction
import StatusCodes.Config
import StatusCodes.Proofs.Fallible

/-!
# Where a document is broken

A text that is no document is refused with a place in it, a line and how far along the line. The
reader counts as it goes, one character at a time, and is stopped in one of two ways: by a
character, which it has counted or has left alone, or by the end of the text. So the place it names
is that of some beginning of the text, and no other beginning has this place. What is missing at
the end is told apart from what is wrong with a character by the cause, and by its message as well.
-/

namespace StatusCodes

namespace Text

/-- What stands behind the last line break. -/
def lastLine (text : List Char) : List Char :=
  (text.reverse.takeWhile (· != '\n')).reverse

theorem lastLine_concat (text : List Char) (c : Char) :
    lastLine (text ++ [c]) = if c = '\n' then [] else lastLine text ++ [c] := by
  rw [lastLine, List.reverse_concat]
  by_cases hc : c = '\n'
  · rw [if_pos hc, List.takeWhile_cons_of_neg (by simpa using hc)]
    rfl
  · rw [if_neg hc, List.takeWhile_cons_of_pos (by simpa using hc), List.reverse_cons, lastLine]

theorem lastLine_append {front rest : List Char} (h : '\n' ∉ rest) :
    lastLine (front ++ rest) = lastLine front ++ rest := by
  have hrest : ∀ c ∈ rest.reverse, (c != '\n') = true := by
    intro c hc
    rw [bne_iff_ne]
    rintro rfl
    exact h (List.mem_reverse.mp hc)
  rw [lastLine, List.reverse_append, List.takeWhile_append_of_pos hrest, List.reverse_append,
    List.reverse_reverse, lastLine]

/-- The place behind a text. -/
theorem Position.after_eq (text : List Char) :
    Position.after text = ⟨1 + text.count '\n', (lastLine text).length⟩ := by
  induction text using List.reverseRecOn with
  | nil => rfl
  | append_singleton text c ih =>
      rw [Position.after_append_singleton, ih, lastLine_concat, List.count_append, Position.advance]
      by_cases hc : c = '\n'
      · rw [if_pos hc, if_pos hc, hc]
        rfl
      · rw [if_neg hc, if_neg hc, List.count_singleton, if_neg (by simpa using hc),
          List.length_append]
        rfl

/-- Of two beginnings of a text with the same place, none is longer. -/
theorem Position.eq_of_after_append {front rest : List Char}
    (h : Position.after (front ++ rest) = Position.after front) : rest = [] := by
  rw [Position.after_eq, Position.after_eq, Position.mk.injEq, List.count_append] at h
  obtain ⟨hline, hcolumn⟩ := h
  have hnone : '\n' ∉ rest := List.count_eq_zero.mp (by omega)
  rw [lastLine_append hnone, List.length_append] at hcolumn
  exact List.length_eq_zero_iff.mp (by omega)

theorem Position.after_injective_of_beginnings {a b text : List Char} (ha : a <+: text)
    (hb : b <+: text) (h : Position.after a = Position.after b) : a = b := by
  rcases List.prefix_or_prefix_of_prefix ha hb with ⟨rest, rfl⟩ | ⟨rest, rfl⟩
  · rw [Position.eq_of_after_append h.symm, List.append_nil]
  · rw [Position.eq_of_after_append h, List.append_nil]

end Text

namespace Json

/-! ## What a cause says -/

/-- A text begins with another. -/
def Begins (text start : String) : Prop :=
  start.toList <+: text.toList

theorem begins_self (text : String) : Begins text text :=
  List.prefix_rfl

theorem Begins.append {text start : String} (h : Begins text start) (rest : String) :
    Begins (text ++ rest) start := by
  rw [Begins, String.toList_append]
  exact h.trans (List.prefix_append _ _)

theorem not_begins {text start : String}
    (h : start.toList.isPrefixOf text.toList = false) : ¬ Begins text start := by
  intro hbegins
  rw [List.isPrefixOf_iff_prefix.mpr hbegins] at h
  cases h

/-- What is said of a character or a number begins in another way than what is said of the end. -/
theorem Cause.exists_begins (cause : Cause) : cause = .unexpectedEnd ∨
    ∃ start, Begins cause.message start ∧ ¬ Begins "Unexpected EOF" start := by
  cases cause with
  | unexpectedEnd => exact .inl rfl
  | noWholePart | leadingZero | noFraction | noExponent =>
      exact .inr ⟨_, begins_self _, not_begins (by decide +kernel)⟩
  | noValue | keyNotText | controlCharacter =>
      exact .inr ⟨_, (begins_self _).append _, not_begins (by decide +kernel)⟩
  | trailing | noColon | objectUnclosed | arrayUnclosed | noEscape | notHexadecimal
  | loneSurrogate =>
      exact .inr ⟨_, ((begins_self _).append _).append _, not_begins (by decide +kernel)⟩
  | misspelled =>
      exact .inr ⟨_, ((((begins_self _).append _).append _).append _).append _,
        not_begins (by decide +kernel)⟩

theorem Cause.eq_unexpectedEnd_of_message {cause : Cause}
    (h : cause.message = "Unexpected EOF") : cause = .unexpectedEnd := by
  rcases cause.exists_begins with hend | ⟨start, hbegins, hnot⟩
  · exact hend
  · rw [h] at hbegins
    exact absurd hbegins hnot

/-! ## What a character can be refused for -/

section

variable {stack : List Frame} {v : Json} {c : Char} {cause : Cause} {e : Refusal} {s : Spot}
  {r : Reader}

theorem Numeral.missing?_ne (n : Numeral) : n.missing? ≠ some .unexpectedEnd := by
  intro h
  rw [missing?] at h
  split at h
  · split at h
    · cases h
    · split at h <;> cases h
  · split at h <;> cases h
  · cases h
  · split at h <;> cases h

theorem Numeral.next_ne (n : Numeral) (c : Char) : n.next c ≠ .error .unexpectedEnd := by
  intro h
  rw [next] at h
  split at h
  · cases h
  · split at h
    · next cause hmissing =>
        cases h
        exact n.missing?_ne hmissing
    · cases h

theorem Body.settled_ne (b : Body) : b.settled ≠ .error .unexpectedEnd := by
  intro h
  rw [settled] at h
  split at h <;> cases h

theorem Body.push_ne (b : Body) (c : Char) : b.push c ≠ .error .unexpectedEnd := by
  intro h
  exact b.settled_ne (Fallible.eq_error_of_bind_pure h)

theorem Body.next_ne (b : Body) (c : Char) : b.next c ≠ .error .unexpectedEnd := by
  intro h
  rw [next] at h
  split at h
  · -- No escape is under way.
    split at h
    · cases h
    · split at h
      · exact b.settled_ne (Fallible.eq_error_of_bind_pure h)
      · split at h
        · cases h
        · exact b.push_ne c (Fallible.eq_error_of_bind_pure h)
  · -- Behind a backslash.
    split at h
    · cases h
    · split at h
      · exact b.push_ne _ (Fallible.eq_error_of_bind_pure h)
      · cases h
  · -- Among the digits of a unit.
    split at h
    · cases h
    · split at h
      · cases h
      · split at h <;> cases h

namespace Reader

theorem settle_ne (stack : List Frame) (v : Json) : settle stack v ≠ .error .unexpectedEnd := by
  intro h
  unfold settle at h
  split at h
  · cases h
  · cases h
  · split at h <;> cases h
  · cases h

theorem cause_complete (h : complete stack v = .error e) : e.cause ≠ .unexpectedEnd := by
  rw [complete] at h
  split at h
  · cases h
  · next cause hsettle =>
      cases h
      rintro rfl
      exact settle_ne stack v hsettle

theorem cause_begin (h : begin stack c = .error e) : e.cause ≠ .unexpectedEnd := by
  unfold begin at h
  split at h
  case h_8 =>
    split at h
    · cases h
    · cases h
      exact Cause.noConfusion
  all_goals cases h

theorem cause_token (h : token stack s c = .error e) : e.cause ≠ .unexpectedEnd := by
  unfold token at h
  split at h
  · cases h
  · cases s with
    | value => exact cause_begin h
    | arrayOpen | objectOpen =>
        dsimp only at h
        split at h
        · exact cause_complete h
        · exact cause_begin h
    | arrayRest | objectRest =>
        dsimp only at h
        split at h
        · cases h
        · split at h
          · exact cause_complete h
          · cases h
            exact Cause.noConfusion
    | colon =>
        dsimp only at h
        split at h
        · cases h
        · cases h
          exact Cause.noConfusion
    | done =>
        cases h
        exact Cause.noConfusion

/-- No character is refused for being the end of the text. -/
theorem cause_step (h : r.step c = .error e) : e.cause ≠ .unexpectedEnd := by
  obtain ⟨stack, phase⟩ := r
  cases phase with
  | spot s => exact cause_token h
  | word letter rest word v =>
      simp only [step] at h
      split at h
      · split at h
        · exact cause_complete h
        · cases h
      · cases h
        exact Cause.noConfusion
  | body b =>
      simp only [step] at h
      split at h
      · cases h
      · exact cause_complete h
      · next cause hnext =>
          cases h
          rintro rfl
          exact b.next_ne c hnext
  | numeral n =>
      simp only [step] at h
      split at h
      · cases h
      · split at h
        · exact cause_token h
        · next cause hsettle =>
            cases h
            rintro rfl
            exact settle_ne stack _ hsettle
      · next cause hnext =>
          cases h
          rintro rfl
          exact n.next_ne c hnext

/-! ## Where reading stops -/

/-- A run that fails has counted some beginning of the text. -/
theorem exists_of_run_eq_error {p : Text.Position} {text : List Char} {e : ReadError}
    (h : run p r text = .error e) : e.cause ≠ .unexpectedEnd ∧
      ∃ front, front <+: text ∧ e.position = front.foldl Text.Position.advance p := by
  induction text generalizing p r with
  | nil => cases h
  | cons c rest ih =>
      rw [run] at h
      split at h
      · obtain ⟨hcause, front, hfront, hposition⟩ := ih h
        exact ⟨hcause, c :: front, List.prefix_cons_iff.mpr (.inr ⟨front, rfl, hfront⟩), hposition⟩
      · next refusal hrefusal =>
          cases h
          refine ⟨cause_step hrefusal, ?_⟩
          dsimp only
          split
          · exact ⟨[c], List.prefix_append [c] rest, rfl⟩
          · exact ⟨[], List.nil_prefix, rfl⟩

end Reader

/-- A text that is no document is refused at the place of one of its beginnings, and at its very end
if the end is what was not expected. -/
theorem exists_of_parse_eq_error {text : String} {e : ReadError} (h : parse text = .error e) :
    ∃ front, front <+: text.toList ∧ e.position = .after front ∧
      (e.cause = .unexpectedEnd → front = text.toList) := by
  rw [parse] at h
  split at h
  · next refused hrun =>
      cases h
      obtain ⟨hcause, front, hfront, hposition⟩ := Reader.exists_of_run_eq_error hrun
      exact ⟨front, hfront, hposition, fun hend => absurd hend hcause⟩
  · split at h
    · cases h
    · cases h
      exact ⟨text.toList, List.prefix_rfl, rfl, fun _ => rfl⟩

end

end Json

namespace Config

/-- The text of a fault names a place in a text by the lines and characters before it. It is the
place of one beginning only, and that is the whole text if the fault is that the text ends. -/
def PointsInto (f : Fault) (text : List Char) : Prop :=
  ∃ (line column : Nat) (message : String) (front back : List Char),
    f.text = s!"Parse error at line:{line}, col:{column}: {message}" ∧ text = front ++ back ∧
      line = 1 + front.count '\n' ∧ column = (Text.lastLine front).length ∧
      (∀ front' back', text = front' ++ back' → line = 1 + front'.count '\n' →
        column = (Text.lastLine front').length → front' = front) ∧
      (message = "Unexpected EOF" → front = text)

/-- Every text that is no document is refused as a wrong parameter, with a place in the text. -/
theorem refusals_point_into_text {text : String} {f : Fault} (h : parse text = .error f) :
    f.code = .genInvalidParam ∧ PointsInto f text.toList := by
  rw [parse] at h
  split at h
  · cases h
  · next e he =>
      cases h
      refine ⟨rfl, ?_⟩
      obtain ⟨front, hfront, hposition, hend⟩ := Json.exists_of_parse_eq_error he
      obtain ⟨back, hback⟩ := id hfront
      have hplace := hposition.trans (Text.Position.after_eq front)
      refine ⟨e.position.line, e.position.column, e.cause.message, front, back, rfl, hback.symm,
        by rw [hplace], by rw [hplace], ?_, ?_⟩
      · intro front' back' htext hline hcolumn
        refine Text.Position.after_injective_of_beginnings ⟨back', htext.symm⟩ hfront ?_
        rw [← hposition, Text.Position.after_eq, ← hline, ← hcolumn]
      · intro hmessage
        exact hend (Json.Cause.eq_unexpectedEnd_of_message hmessage)

/-- A stray letter in the second line, and a text that ends inside an array. -/
theorem broken_documents_point_into_text :
    (∃ f, parse "[1,\n  x]" = .error f ∧
      (f.code = .genInvalidParam ∧ PointsInto f "[1,\n  x]".toList) ∧
      f.text = "Parse error at line:2, col:2: Invalid character: x") ∧
    ∃ f, parse "\n[\n\"a\", " = .error f ∧
      (f.code = .genInvalidParam ∧ PointsInto f "\n[\n\"a\", ".toList) ∧
      f.text = "Parse error at line:3, col:5: Unexpected EOF" := by
  have hletter : parse "[1,\n  x]" = .error (unreadable ⟨⟨2, 2⟩, .noValue 'x'⟩) := rfl
  have hend : parse "\n[\n\"a\", " = .error (unreadable ⟨⟨3, 5⟩, .unexpectedEnd⟩) := rfl
  exact ⟨⟨_, hletter, refusals_point_into_text hletter, by decide +kernel⟩,
    ⟨_, hend, refusals_point_into_text hend, by decide +kernel⟩⟩

end Config

end StatusCodes
