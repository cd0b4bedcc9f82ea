import StatusCodes.Policy.Document
import StatusCodes.Proofs.Fallible
import StatusCodes.Proofs.Json.Run
import StatusCodes.Text.Space

/-!
# Documents that were cut off

A text that breaks off before its value is complete is no document, wherever it breaks off. The
proof looks at a text from the place where it breaks off: if the reader could stop there, it has a
whole value behind it, and then nothing but white space can follow, or it is inside a number that
no container holds. A number has no mark at its end, so it is the one value whose beginning may be
a document too; but a text that begins with such a number holds nothing else.

A policy is never a number. Whatever is left of a policy's text when it is cut off is therefore
refused, even if white space around the text is taken away before.
-/

namespace StatusCodes

/-- Some of the text, from its beginning but not to its end. -/
def Text.CutOff (cut whole : List Char) : Prop :=
  cut <+: whole ∧ cut ≠ whole

namespace Json

/-- The last character of the text is white space. -/
def EndsInBlank (text : List Char) : Prop :=
  ∃ c, text.getLast? = some c ∧ isBlank c = true

namespace Reader

variable {r r' : Reader} {stack : List Frame} {c : Char} {text : List Char} {v w : Json}

/-! ## Behind the whole value -/

theorem step_done (h : Reader.step ⟨stack, .spot (.done v)⟩ c = .ok r') :
    isBlank c = true ∧ r' = ⟨stack, .spot (.done v)⟩ := by
  have htoken : token stack (.done v) c = .ok r' := h
  rw [token] at htoken
  split at htoken
  · next hblank =>
      cases htoken
      exact ⟨hblank, rfl⟩
  · cases htoken

theorem Takes.blank_of_done (h : Takes ⟨stack, .spot (.done v)⟩ text r') :
    ∀ c ∈ text, isBlank c = true := by
  induction text with
  | nil =>
      intro c hc
      exact absurd hc List.not_mem_nil
  | cons d text ih =>
      obtain ⟨r, hstep, hrest⟩ := h.step_of_cons
      obtain ⟨hblank, rfl⟩ := step_done hstep
      intro c hc
      rcases List.mem_cons.mp hc with rfl | hc
      · exact hblank
      · exact ih hrest c hc

/-! ## A number that no container holds -/

/-- The value of the document is a number, which may still be under way. -/
inductive OnNumber : Reader → Prop
  | reading (n : Numeral) : OnNumber ⟨[], .numeral n⟩
  | read (stack : List Frame) (x : Binary64) : OnNumber ⟨stack, .spot (.done (.number x))⟩

theorem OnNumber.step (h : OnNumber r) (hstep : r.step c = .ok r') : OnNumber r' := by
  cases h with
  | read stack x =>
      obtain ⟨-, rfl⟩ := step_done hstep
      exact .read stack x
  | reading n =>
      simp only [Reader.step] at hstep
      split at hstep
      · next m hm =>
          cases hstep
          exact .reading m
      · next hm =>
          -- The character ends the number and is read again behind it.
          have hdone : Reader.step ⟨[], .spot (.done (.number (Binary64.ofDecimal n.decimal)))⟩ c =
              .ok r' := hstep
          obtain ⟨-, rfl⟩ := step_done hdone
          exact .read [] _
      · cases hstep

theorem OnNumber.takes (h : OnNumber r) (ht : Takes r text r') : OnNumber r' :=
  ht.keeps (fun _ _ _ _ hs hstep => hs.step hstep) h

theorem OnNumber.finish (h : OnNumber r) (hfinish : r.finish = .ok v) : ∃ x, v = .number x := by
  cases h with
  | read stack x =>
      cases hfinish
      exact ⟨x, rfl⟩
  | reading n =>
      simp only [Reader.finish] at hfinish
      split at hfinish
      · cases hfinish
      · next x hx =>
          cases hfinish
          exact ⟨x, rfl⟩

/-! ## Where a text may end -/

theorem stack_eq_nil_of_settle {x : Binary64} {outer : List Frame}
    (h : settle stack (.number x) = .ok (outer, .done v)) : stack = [] := by
  match stack with
  | [] => rfl
  | .item _ :: _ => cases h
  | .key _ :: _ => cases h
  | .member _ _ :: _ => cases h

theorem finish_cases (h : r.finish = .ok v) :
    (∃ stack w, r = ⟨stack, .spot (.done w)⟩) ∨ OnNumber r := by
  obtain ⟨stack, phase⟩ := r
  match phase with
  | .spot (.done w) => exact .inl ⟨stack, w, rfl⟩
  | .numeral n =>
      simp only [Reader.finish] at h
      split at h
      · cases h
      · next x hx =>
          split at h
          · next outer w hsettle =>
              rw [stack_eq_nil_of_settle hsettle]
              exact .inr (.reading n)
          · cases h
          · cases h

/-- What can follow where the text might have ended. -/
theorem blank_or_number (hr : r.finish = .ok v) (ht : Takes r text r') (hr' : r'.finish = .ok w) :
    (∀ c ∈ text, isBlank c = true) ∨ ∃ x, w = .number x := by
  rcases finish_cases hr with ⟨stack, u, rfl⟩ | hnumber
  · exact .inl ht.blank_of_done
  · exact .inr ((hnumber.takes ht).finish hr')

/-! ## White space in front -/

theorem isSpace_of_isBlank (h : isBlank c = true) : Text.isSpace c = true := by
  simp only [isBlank, Bool.or_eq_true, beq_iff_eq] at h
  rcases h with ((rfl | rfl) | rfl) | rfl <;> decide

theorem begin_of_isSpace (h : Text.isSpace c = true) : begin stack c = leave (.noValue c) := by
  have hdigit : c.isDigit = false := by
    rw [Bool.eq_false_iff]
    intro hdigit
    rw [Char.isDigit_iff_toNat] at hdigit
    have h0 : '0'.toNat = 48 := rfl
    have h9 : '9'.toNat = 57 := rfl
    simp only [Text.isSpace, Bool.or_eq_true, Bool.and_eq_true, decide_eq_true_eq,
      beq_iff_eq] at h
    omega
  unfold begin
  split
  case h_8 => exact if_neg (by rw [hdigit]; decide)
  all_goals exact absurd h (by decide)

theorem step_start_of_isSpace (h : Text.isSpace c = true) (hstep : start.step c = .ok r) :
    r = start := by
  have htoken : token [] .value c = .ok r := hstep
  rw [token] at htoken
  split at htoken
  · cases htoken
    rfl
  · rw [begin_of_isSpace h] at htoken
    cases htoken

theorem Takes.eq_start (hspace : ∀ c ∈ text, Text.isSpace c = true) (h : Takes start text r) :
    r = start := by
  refine h.keeps (P := fun s => s = start) ?_ rfl
  intro c hc s s' hs hstep
  rw [hs] at hstep
  exact step_start_of_isSpace (hspace c hc) hstep

end Reader

/-- If a document begins with white space and another document, then white space is all that comes
after these, or its value is a number. -/
theorem blank_or_number_of_parse {text cut : String} {lead rest : List Char} {v w : Json}
    (htext : text.toList = lead ++ (cut.toList ++ rest))
    (hlead : ∀ c ∈ lead, Text.isSpace c = true) (hcut : parse cut = .ok v)
    (hparse : parse text = .ok w) : (∀ c ∈ rest, isBlank c = true) ∨ ∃ x, w = .number x := by
  obtain ⟨r, htakes, hfinish⟩ := Reader.takes_of_parse hparse
  obtain ⟨s, hs, hsfinish⟩ := Reader.takes_of_parse hcut
  rw [htext] at htakes
  obtain ⟨front, hfront, hbehind⟩ := htakes.divide
  have hstart : front = Reader.start := hfront.eq_start hlead
  rw [hstart] at hbehind
  obtain ⟨s', hs', hrest⟩ := hbehind.divide
  have hsame : s' = s := hs'.unique hs
  rw [hsame] at hrest
  exact Reader.blank_or_number hsfinish hrest hfinish

end Json

namespace Text

theorem exists_of_cutOff {cut whole : List Char} (h : CutOff cut whole) :
    ∃ rest, whole = cut ++ rest ∧ ∃ c, whole.getLast? = some c ∧ c ∈ rest := by
  obtain ⟨⟨rest, hwhole⟩, hne⟩ := h
  cases hlast : rest.getLast? with
  | none =>
      have hrest : rest = [] := List.getLast?_eq_none_iff.mp hlast
      rw [hrest, List.append_nil] at hwhole
      exact absurd hwhole hne
  | some c =>
      refine ⟨rest, hwhole.symm, c, ?_, List.mem_of_getLast? hlast⟩
      rw [← hwhole, List.getLast?_append, hlast, Option.some_or]

theorem exists_trimmed (text : List Char) :
    ∃ lead trail, text = lead ++ (trimmed text ++ trail) ∧ ∀ c ∈ lead, isSpace c = true := by
  refine ⟨text.takeWhile isSpace,
    ((text.dropWhile isSpace).reverse.takeWhile isSpace).reverse, ?_, ?_⟩
  · rw [trimmed, ← List.reverse_append, List.takeWhile_append_dropWhile, List.reverse_reverse,
      List.takeWhile_append_dropWhile]
  · intro c hc
    exact List.all_eq_true.mp List.all_takeWhile c hc

theorem isSpace_of_getLast?_trimmed {text : List Char} {c : Char}
    (h : (trimmed text).getLast? = some c) : isSpace c = false := by
  rw [trimmed, List.getLast?_reverse] at h
  have hnot := List.head?_dropWhile_not isSpace (text.dropWhile isSpace).reverse
  rw [h] at hnot
  simpa using hnot

end Text

namespace Config

/-- The text is refused as a wrong parameter. -/
def Refuses (text : String) : Prop :=
  ∃ f, parse text = .error f ∧ f.code = .genInvalidParam

theorem refuses_of_not_document {text : String} (h : ∀ v, Json.parse text ≠ .ok v) :
    Refuses text := by
  cases hparse : Json.parse text with
  | ok v => exact absurd hparse (h v)
  | error e => exact ⟨unreadable e, by rw [parse, hparse], rfl⟩

theorem json_of_parse {text : String} {c : Config} (h : parse text = .ok c) :
    Json.parse text = .ok c.value := by
  rw [parse] at h
  cases hparse : Json.parse text with
  | ok v =>
      rw [hparse] at h
      cases h
      rfl
  | error e =>
      rw [hparse] at h
      cases h

/-- A policy is written as an object, or as nothing at all. -/
theorem ne_number_of_policy {c : Config} {p : Policy} (h : Policy.ofConfig c = .ok p)
    (x : Binary64) : c.value ≠ .number x := by
  intro hvalue
  have hjson := Fallible.mapError_eq_ok_iff.mp h
  rw [hvalue] at hjson
  cases hjson

/-- Every beginning of a document is refused as a wrong parameter, unless the document is a number or
ends in white space. So is every beginning of the text of a policy from which the white space
around it has been taken away; no such beginning is a policy. -/
theorem cut_off_documents_refused :
    (∀ (text : String) (c : Config), parse text = .ok c → (∀ x, c.value ≠ .number x) →
      ¬ Json.EndsInBlank text.toList →
      ∀ cut : String, Text.CutOff cut.toList text.toList → Refuses cut) ∧
    ∀ (text : String) (p : Policy), parse text >>= Policy.ofConfig = .ok p →
      ∀ cut : String, Text.CutOff cut.toList (Text.trimmed text.toList) →
        Refuses cut ∧ ∀ q, parse cut >>= Policy.ofConfig ≠ .ok q := by
  constructor
  · intro text c hparse hvalue hend cut hcut
    obtain ⟨rest, htext, d, hlast, hd⟩ := Text.exists_of_cutOff hcut
    have hplain : text.toList = [] ++ (cut.toList ++ rest) := htext
    apply refuses_of_not_document
    intro v hv
    rcases Json.blank_or_number_of_parse hplain (by simp) hv (json_of_parse hparse) with
      hblank | ⟨x, hx⟩
    · exact hend ⟨d, hlast, hblank d hd⟩
    · exact hvalue x hx
  · intro text p hp cut hcut
    obtain ⟨c, hparse, hpolicy⟩ := Fallible.bind_eq_ok_iff.mp hp
    obtain ⟨lead, trail, htext, hlead⟩ := Text.exists_trimmed text.toList
    obtain ⟨rest, htrimmed, d, hlast, hd⟩ := Text.exists_of_cutOff hcut
    rw [htrimmed, List.append_assoc] at htext
    have hrefused : Refuses cut := by
      apply refuses_of_not_document
      intro v hv
      rcases Json.blank_or_number_of_parse htext hlead hv (json_of_parse hparse) with
        hblank | ⟨x, hx⟩
      · have hspace := Json.Reader.isSpace_of_isBlank (hblank d (List.mem_append_left _ hd))
        rw [Text.isSpace_of_getLast?_trimmed hlast] at hspace
        cases hspace
      · exact ne_number_of_policy hpolicy x hx
    refine ⟨hrefused, ?_⟩
    intro q hq
    obtain ⟨f, hf, -⟩ := hrefused
    obtain ⟨c', hc', -⟩ := Fallible.bind_eq_ok_iff.mp hq
    rw [hf] at hc'
    cases hc'

theorem policy_without_last_brace_refused :
    parse "\x7b\"mute\": [\"ERR_FS_IO\"]\x7d\n" >>= Policy.ofConfig =
      .ok (Policy.standard.withMuted .fsIo) ∧
    Refuses "\x7b\"mute\": [\"ERR_FS_IO\"]" := by
  have hpolicy : parse "\x7b\"mute\": [\"ERR_FS_IO\"]\x7d\n" >>= Policy.ofConfig =
      .ok (Policy.standard.withMuted .fsIo) := rfl
  have hcut : Text.CutOff "\x7b\"mute\": [\"ERR_FS_IO\"]".toList
      (Text.trimmed "\x7b\"mute\": [\"ERR_FS_IO\"]\x7d\n".toList) :=
    ⟨⟨['\x7d'], by decide⟩, by decide⟩
  exact ⟨hpolicy, (cut_off_documents_refused.2 _ _ hpolicy _ hcut).1⟩

/-- Numbers have to be left out: a beginning of this one is a number too. -/
example : (parse "12").isOk = true ∧ (parse "1").isOk = true := ⟨rfl, rfl⟩

end Config

end StatusCodes
