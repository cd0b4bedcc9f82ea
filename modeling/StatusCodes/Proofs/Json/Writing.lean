import StatusCodes.Proofs.Association
import StatusCodes.Proofs.Json.Spelling

/-!
# Ways of writing a value

A value has many texts. White space can stand around every value and every key, the characters of
a text can be spelled in several ways, and a key that is written twice leaves the value that was
written last. `Written` is the relation between a value and its texts, for values without numbers;
a number has no last character of its own, so where it ends depends on what follows.

Reading gives back what was written. The proof follows the way the text was put together and says
of each part where it takes the reader: from any place at which a value may begin to the place
behind it, whatever containers are open. That a value may begin behind a bracket as well as behind
a comma is all that the first item of a container has of its own, so the places are summed up by
what they do with a character.
-/

namespace StatusCodes.Json

/-- What the members of an object come to when they are read in order. -/
def gathered (before members : List (String × Json)) : List (String × Json) :=
  members.foldl (fun ms m => Association.put ms m.1 m.2) before

theorem gathered_cons (before : List (String × Json)) (k : String) (v : Json)
    (ms : List (String × Json)) :
    gathered before ((k, v) :: ms) = gathered (Association.put before k v) ms := rfl

mutual

/-- The ways of writing a value that holds no numbers. -/
inductive Written : Json → List Char → Prop
  | null : Written .null ['n', 'u', 'l', 'l']
  | true : Written (.bool true) ['t', 'r', 'u', 'e']
  | false : Written (.bool false) ['f', 'a', 'l', 's', 'e']
  | text {s t} : WritesText (String.toList s) t → Written (.string s) ('"' :: (t ++ ['"']))
  | noItems {b} : (∀ c ∈ b, Space c) → Written (.array []) ('[' :: (b ++ [']']))
  | items {vs t} : WrittenItems vs t → Written (.array vs) ('[' :: (t ++ [']']))
  | noMembers {b} : (∀ c ∈ b, Space c) → Written (.object []) ('{' :: (b ++ ['}']))
  | members {ms t} : WrittenMembers ms t →
      Written (.object (gathered [] ms)) ('{' :: (t ++ ['}']))
  | blankBefore {v c t} : Space c → Written v t → Written v (c :: t)
  | blankAfter {v c t} : Space c → Written v t → Written v (t ++ [c])

/-- Items with commas between them. -/
inductive WrittenItems : List Json → List Char → Prop
  | last {v t} : Written v t → WrittenItems [v] t
  | more {v vs t rest} : Written v t → WrittenItems vs rest →
      WrittenItems (v :: vs) (t ++ ',' :: rest)

/-- Members with commas between them. -/
inductive WrittenMembers : List (String × Json) → List Char → Prop
  | last {k v s t} : Written (.string k) s → Written v t →
      WrittenMembers [(k, v)] (s ++ ':' :: t)
  | more {k v ms s t rest} : Written (.string k) s → Written v t → WrittenMembers ms rest →
      WrittenMembers ((k, v) :: ms) (s ++ ':' :: (t ++ ',' :: rest))

end

namespace Reader

/-- A value may begin here, and the innermost of these containers gets it. -/
structure Awaits (r : Reader) (stack : List Frame) : Prop where
  blank : ∀ c, isBlank c = true → r.step c = .ok r
  begins : ∀ c, isBlank c = false → c ≠ ']' → c ≠ '}' → r.step c = begin stack c

theorem awaits_value (stack : List Frame) : Awaits ⟨stack, .spot .value⟩ stack where
  blank c hc := by simp only [step, token, if_pos hc]
  begins c hc _ _ := by
    simp only [step, token, hc]
    rfl

theorem awaits_arrayOpen (stack : List Frame) :
    Awaits ⟨stack, .spot .arrayOpen⟩ (.item [] :: stack) where
  blank c hc := by simp only [step, token, if_pos hc]
  begins c hc hbracket _ := by
    simp only [step, token, hc, if_neg hbracket]
    rfl

theorem awaits_objectOpen (stack : List Frame) :
    Awaits ⟨stack, .spot .objectOpen⟩ (.key [] :: stack) where
  blank c hc := by simp only [step, token, if_pos hc]
  begins c hc _ hbrace := by
    simp only [step, token, hc, if_neg hbrace]
    rfl

theorem step_between_blank {p : List Frame × Spot} {c : Char} (hc : isBlank c = true) :
    (between p).step c = .ok (between p) := by
  simp only [step, between, token, if_pos hc]

theorem takes_blanks {r : Reader} {b : List Char} (hr : ∀ c, isBlank c = true → r.step c = .ok r)
    (hb : ∀ c ∈ b, Space c) : Takes r b r := by
  induction b with
  | nil => exact .nil r
  | cons c b ih =>
      refine .cons (hr c (isBlank_iff.mpr (hb c List.mem_cons_self))) (ih fun d hd => ?_)
      exact hb d (List.mem_cons_of_mem _ hd)

theorem complete_eq {stack : List Frame} {v : Json} {q : List Frame × Spot}
    (h : settle stack v = .ok q) : complete stack v = .ok (between q) := by
  simp only [complete, h]

mutual

theorem takes_written {r : Reader} {stack : List Frame} {v : Json} {t : List Char}
    {q : List Frame × Spot} (h : Written v t) (hr : Awaits r stack) (hq : settle stack v = .ok q) :
    Takes r t (between q) := by
  match h with
  | .null =>
      refine .cons (hr.begins 'n' rfl (by decide) (by decide)) ?_
      exact .cons rfl (.cons rfl (.one (complete_eq hq)))
  | .true =>
      refine .cons (hr.begins 't' rfl (by decide) (by decide)) ?_
      exact .cons rfl (.cons rfl (.one (complete_eq hq)))
  | .false =>
      refine .cons (hr.begins 'f' rfl (by decide) (by decide)) ?_
      exact .cons rfl (.cons rfl (.cons rfl (.one (complete_eq hq))))
  | @Written.text s t ht =>
      obtain ⟨b, hb, hholds⟩ := takes_chars stack ht Body.holds_empty
      refine .cons (hr.begins '"' rfl (by decide) (by decide)) (.append hb (.one ?_))
      rw [step_closingQuote hholds, List.nil_append, String.ofList_toList]
      exact complete_eq hq
  | .noItems hb =>
      refine .cons (hr.begins '[' rfl (by decide) (by decide)) ?_
      exact .append (takes_blanks (awaits_arrayOpen stack).blank hb) (.one (complete_eq hq))
  | @Written.items vs t hvs =>
      have hvs' := takes_writtenItems hvs (awaits_arrayOpen stack)
      refine .cons (hr.begins '[' rfl (by decide) (by decide)) (.append hvs' (.one ?_))
      rw [List.append_nil]
      show complete stack (.array vs.reverse.reverse) = _
      rw [List.reverse_reverse]
      exact complete_eq hq
  | .noMembers hb =>
      refine .cons (hr.begins '{' rfl (by decide) (by decide)) ?_
      exact .append (takes_blanks (awaits_objectOpen stack).blank hb) (.one (complete_eq hq))
  | .members hms =>
      have hms' := takes_writtenMembers hms (awaits_objectOpen stack)
      refine .cons (hr.begins '{' rfl (by decide) (by decide)) (.append hms' (.one ?_))
      exact complete_eq hq
  | .blankBefore hc ht => exact .cons (hr.blank _ (isBlank_iff.mpr hc)) (takes_written ht hr hq)
  | .blankAfter hc ht =>
      exact .append (takes_written ht hr hq) (.one (step_between_blank (isBlank_iff.mpr hc)))

theorem takes_writtenItems {r : Reader} {stack : List Frame} {before vs : List Json}
    {t : List Char} (h : WrittenItems vs t) (hr : Awaits r (.item before :: stack)) :
    Takes r t (between (stack, .arrayRest (vs.reverse ++ before))) := by
  match h with
  | .last hv => exact takes_written hv hr rfl
  | @WrittenItems.more v vs t rest hv hvs =>
      rw [List.reverse_cons, List.append_assoc, List.singleton_append]
      refine .append (takes_written hv hr rfl) (.cons rfl ?_)
      exact takes_writtenItems hvs (awaits_value (.item (v :: before) :: stack))

theorem takes_writtenMembers {r : Reader} {stack : List Frame}
    {before ms : List (String × Json)} {t : List Char} (h : WrittenMembers ms t)
    (hr : Awaits r (.key before :: stack)) :
    Takes r t (between (stack, .objectRest (gathered before ms))) := by
  match h with
  | @WrittenMembers.last k v s t hk hv =>
      refine .append (takes_written hk hr rfl) (.cons rfl ?_)
      exact takes_written hv (awaits_value (.member before k :: stack)) rfl
  | @WrittenMembers.more k v ms s t rest hk hv hms =>
      rw [gathered_cons]
      refine .append (takes_written hk hr rfl) (.cons rfl ?_)
      refine .append (takes_written hv (awaits_value (.member before k :: stack)) rfl) ?_
      refine .cons rfl ?_
      exact takes_writtenMembers hms (awaits_value (.key (Association.put before k v) :: stack))

end

end Reader

/-! ## Every value has a text

As long as the keys of an object differ, writing its members in their order is a way of writing
the object. -/

theorem gathered_of_nodup (before : List (String × Json)) {ms : List (String × Json)}
    (h : ((before ++ ms).map Prod.fst).Nodup) : gathered before ms = before ++ ms := by
  induction ms generalizing before with
  | nil => simp [gathered]
  | cons m ms ih =>
      obtain ⟨k, v⟩ := m
      have hk : k ∉ before.map Prod.fst := by
        rw [List.map_append, List.nodup_append] at h
        intro hk
        exact h.2.2 k hk k (by simp) rfl
      rw [gathered_cons, Association.put_of_not_mem hk, ih _ (by simpa using h)]
      simp

theorem writesText_self {cs : List Char}
    (h : ∀ c ∈ cs, c ≠ '"' ∧ c ≠ '\\' ∧ 0x20 ≤ c.toNat) : WritesText cs cs := by
  induction cs with
  | nil => exact .nil
  | cons c cs ih =>
      obtain ⟨hquote, hbackslash, hcontrol⟩ := h c List.mem_cons_self
      exact .cons (.literal hquote hbackslash hcontrol)
        (ih fun d hd => h d (List.mem_cons_of_mem _ hd))

theorem exists_writtenItems {v : Json} {vs : List Json} (h : ∀ w ∈ v :: vs, ∃ t, Written w t) :
    ∃ t, WrittenItems (v :: vs) t := by
  induction vs generalizing v with
  | nil =>
      obtain ⟨t, ht⟩ := h v List.mem_cons_self
      exact ⟨t, .last ht⟩
  | cons w vs ih =>
      obtain ⟨t, ht⟩ := h v List.mem_cons_self
      obtain ⟨rest, hrest⟩ := ih fun u hu => h u (List.mem_cons_of_mem _ hu)
      exact ⟨_, .more ht hrest⟩

theorem exists_written_array {vs : List Json} (h : ∀ v ∈ vs, ∃ t, Written v t) :
    ∃ t, Written (.array vs) t := by
  cases vs with
  | nil => exact ⟨_, .noItems (b := []) (by simp)⟩
  | cons v vs =>
      obtain ⟨t, ht⟩ := exists_writtenItems h
      exact ⟨_, .items ht⟩

theorem exists_writtenMembers {m : String × Json} {ms : List (String × Json)}
    (h : ∀ n ∈ m :: ms, (∃ s, Written (.string n.1) s) ∧ ∃ t, Written n.2 t) :
    ∃ t, WrittenMembers (m :: ms) t := by
  induction ms generalizing m with
  | nil =>
      obtain ⟨⟨s, hs⟩, t, ht⟩ := h m List.mem_cons_self
      exact ⟨_, .last hs ht⟩
  | cons n ms ih =>
      obtain ⟨⟨s, hs⟩, t, ht⟩ := h m List.mem_cons_self
      obtain ⟨rest, hrest⟩ := ih fun u hu => h u (List.mem_cons_of_mem _ hu)
      exact ⟨_, .more hs ht hrest⟩

theorem exists_written_object {ms : List (String × Json)} (hkeys : (ms.map Prod.fst).Nodup)
    (h : ∀ m ∈ ms, (∃ s, Written (.string m.1) s) ∧ ∃ t, Written m.2 t) :
    ∃ t, Written (.object ms) t := by
  cases ms with
  | nil => exact ⟨_, .noMembers (b := []) (by simp)⟩
  | cons m ms =>
      obtain ⟨t, ht⟩ := exists_writtenMembers h
      refine ⟨'{' :: (t ++ ['}']), ?_⟩
      have hobject := Written.members ht
      rw [gathered_of_nodup [] hkeys] at hobject
      exact hobject

/-- Reading a document gives back the value that was written. -/
theorem parse_written {v : Json} {text : String} (h : Written v text.toList) :
    parse text = .ok v :=
  Reader.parse_of_takes (Reader.takes_written h (Reader.awaits_value []) rfl) rfl

end StatusCodes.Json
