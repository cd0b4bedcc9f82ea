import StatusCodes.Fault

/-!
# What the tables know and what they do not

Codes, categories and levels are looked up by name, and a lookup has two sides: the names it
finds something for, and what it says of the others. Both are told here without the lookups.

A category is also read off the name of a code. It is the one whose token stands behind `ERR_` up
to the next underscore, but the underscore is not asked for: a name that ends with the token has a
category as well.
-/

namespace StatusCodes

theorem Category.ofToken?_eq_none_iff {s : String} :
    Category.ofToken? s = none ↔ ∀ k, Text.folded s ≠ Text.folded (Category.token k) := by
  rw [Option.eq_none_iff_forall_ne_some]
  exact forall_congr' fun k => not_congr Category.ofToken?_eq_some_iff

theorem Code.ofName?_eq_none_iff {s : String} :
    Code.ofName? s = none ↔ ∀ c, s ≠ Code.name c := by
  rw [Option.eq_none_iff_forall_ne_some]
  exact forall_congr' fun c => not_congr Code.ofName?_eq_some_iff

theorem Category.parse_eq_ok_iff {s : String} {k : Category} :
    Category.parse s = .ok k ↔ Text.folded s = Text.folded k.token := by
  rw [← Category.ofToken?_eq_some_iff, Category.parse]
  cases Category.ofToken? s <;> simp

theorem Category.parse_eq_error_iff {s : String} {u : Unknown} :
    Category.parse s = .error u ↔
      (∀ k, Text.folded s ≠ Text.folded (Category.token k)) ∧ u = .category s := by
  rw [← Category.ofToken?_eq_none_iff, Category.parse]
  cases Category.ofToken? s <;> simp [eq_comm]

theorem Code.parse_eq_ok_iff {s : String} {c : Code} : Code.parse s = .ok c ↔ s = c.name := by
  rw [← Code.ofName?_eq_some_iff, Code.parse]
  cases Code.ofName? s <;> simp

theorem Code.parse_eq_error_iff {s : String} {u : Unknown} :
    Code.parse s = .error u ↔ (∀ c, s ≠ Code.name c) ∧ u = .codeName s := by
  rw [← Code.ofName?_eq_none_iff, Code.parse]
  cases Code.ofName? s <;> simp [eq_comm]

theorem Level.parse_eq_ok_iff {s : String} {l : Level} :
    Level.parse s = .ok l ↔ Level.ofText? s = some l := by
  rw [Level.parse]
  cases Level.ofText? s <;> simp

theorem Level.parse_eq_error_iff {s : String} {u : Unknown} :
    Level.parse s = .error u ↔ Level.ofText? s = none ∧ u = .level s := by
  rw [Level.parse]
  cases Level.ofText? s <;> simp [eq_comm]

/-! ## Levels in any letter case -/

theorem Level.folded_name_injective {l m : Level} (h : Text.folded l.name = Text.folded m.name) :
    l = m := by
  revert h
  cases l <;> cases m <;> decide

theorem Level.ofName?_of_folded {s : String} {l : Level}
    (h : Text.folded s = Text.folded l.name) : Level.ofName? s = some l := by
  cases hs : Level.ofName? s with
  | none =>
      rw [Level.ofName?, List.find?_eq_none] at hs
      exact absurd (Text.sameLetters_iff.mpr h.symm) (hs l (Level.mem_all l))
  | some m =>
      rw [Level.ofName?] at hs
      have hm := List.find?_some hs
      rw [Level.folded_name_injective ((Text.sameLetters_iff.mp hm).trans h)]

theorem Text.toLower_of_isDigit {c : Char} (h : c.isDigit = true) : c.toLower = c := by
  rw [Char.isDigit_iff_toNat] at h
  refine dif_neg ?_
  rintro ⟨hA, -⟩
  have hA' : 'A'.toNat ≤ c.toNat := hA
  have h9 : '9'.toNat = 57 := rfl
  have h65 : 'A'.toNat = 65 := rfl
  omega

/-- A name of a level is not taken for a number, since it begins with a letter. -/
theorem Level.unsigned?_of_folded {s : String} {l : Level}
    (h : Text.folded s = Text.folded l.name) : Text.unsigned? s.toList = none := by
  obtain ⟨a, rest, hl, hdigit, hplus⟩ : ∃ a rest, Text.folded l.name = a :: rest ∧
      a.isDigit = false ∧ a ≠ '+' := by
    cases l <;> exact ⟨_, _, rfl, by decide, by decide⟩
  rw [hl, Text.folded] at h
  obtain ⟨c, tail, htext, hc, -⟩ := List.map_eq_cons_iff.mp h
  have hcdigit : c.isDigit = false := by
    cases hd : c.isDigit with
    | false => rfl
    | true =>
        rw [Text.toLower_of_isDigit hd] at hc
        rw [hc, hdigit] at hd
        cases hd
  have hcplus : c ≠ '+' := by
    rintro rfl
    exact hplus hc.symm
  rw [htext, Text.unsigned?]
  · simp [Text.digits?, hcdigit]
  · rintro rest hrest
    exact hcplus (List.cons.inj hrest).1

theorem Level.ofText?_of_folded {s : String} {l : Level}
    (h : Text.folded s = Text.folded l.name) : Level.ofText? s = some l := by
  rw [Level.ofText?, Level.unsigned?_of_folded h]
  exact Level.ofName?_of_folded h

/-! ## Categories of code names -/

/-- What stands before the first separator is a word without separators: either the word is all
there is, or a separator follows. -/
theorem takeWhile_ne_eq_iff {sep : Char} {word text : List Char} (hword : sep ∉ word) :
    text.takeWhile (· != sep) = word ↔ text = word ∨ ∃ rest, text = word ++ sep :: rest := by
  induction text generalizing word with
  | nil =>
      rw [List.takeWhile_nil]
      constructor
      · exact .inl
      · rintro (h | ⟨rest, h⟩)
        · exact h
        · cases List.append_eq_nil_iff.mp h.symm |>.2
  | cons c text ih =>
      by_cases hc : c = sep
      · subst hc
        rw [List.takeWhile_cons_of_neg (by simp)]
        constructor
        · rintro rfl
          exact .inr ⟨text, rfl⟩
        · -- A word that begins with the separator is not without separators.
          intro h
          cases word with
          | nil => rfl
          | cons d word =>
              have hd : c = d := by
                rcases h with h | ⟨rest, h⟩ <;> exact (List.cons.inj h).1
              exact absurd (hd ▸ List.mem_cons_self) hword
      · rw [List.takeWhile_cons_of_pos (by simpa using hc)]
        cases word with
        | nil =>
            constructor
            · intro h
              cases h
            · rintro (h | ⟨rest, h⟩)
              · cases h
              · exact absurd (List.cons.inj h).1 hc
        | cons d word =>
            rw [List.cons.injEq, ih (List.not_mem_of_not_mem_cons hword), and_or_left]
            simp only [List.cons_append, List.cons.injEq, exists_and_left]

namespace Category

theorem underscore_not_mem_token (c : Category) : '_' ∉ c.token.toList := by
  cases c <;> decide

theorem token_toList_injective {c d : Category} (h : c.token.toList = d.token.toList) : c = d := by
  revert h
  cases c <;> cases d <;> decide

/-- The category that a text spells up to its first underscore. -/
theorem find?_token_eq_some_iff {word : List Char} {c : Category} :
    (all.find? fun d => d.token.toList == word) = some c ↔ word = c.token.toList := by
  constructor
  · intro h
    have hc := List.find?_some h
    exact (beq_iff_eq.mp hc).symm
  · rintro rfl
    cases h : all.find? fun d => d.token.toList == c.token.toList with
    | none => exact absurd (List.find?_eq_none.mp h c (mem_all c)) (by simp)
    | some d =>
        have hd := List.find?_some h
        rw [token_toList_injective (beq_iff_eq.mp hd)]

theorem ofCodeName?_eq_some_iff_toList {name : String} {c : Category} :
    ofCodeName? name = some c ↔
      ∃ rest, name.toList = "ERR_".toList ++ rest ∧
        rest.takeWhile (· != '_') = c.token.toList := by
  rw [ofCodeName?]
  cases h : Text.afterStart? "ERR_".toList name.toList with
  | none =>
      constructor
      · intro hc
        cases hc
      · rintro ⟨rest, hrest, -⟩
        rw [Text.afterStart?_eq_some_iff.mpr hrest] at h
        cases h
  | some rest =>
      have hname := Text.afterStart?_eq_some_iff.mp h
      rw [hname]
      simp only [List.append_cancel_left_eq, exists_eq_left', find?_token_eq_some_iff]

/-- A name has a category exactly if it is `ERR_` and the category's token, by themselves or
followed by an underscore and anything else. -/
theorem ofCodeName?_eq_some_iff {name : String} {c : Category} :
    ofCodeName? name = some c ↔
      name = "ERR_" ++ c.token ∨ ∃ rest, name = "ERR_" ++ c.token ++ "_" ++ rest := by
  have hbare : name = "ERR_" ++ c.token ↔ name.toList = "ERR_".toList ++ c.token.toList := by
    rw [← String.toList_inj, String.toList_append]
  have hfollowed : ∀ rest : String, name = "ERR_" ++ c.token ++ "_" ++ rest ↔
      name.toList = "ERR_".toList ++ (c.token.toList ++ '_' :: rest.toList) := by
    intro rest
    rw [← String.toList_inj]
    simp only [String.toList_append, List.append_assoc]
    rfl
  rw [ofCodeName?_eq_some_iff_toList, hbare]
  constructor
  · rintro ⟨text, hname, htext⟩
    rcases (takeWhile_ne_eq_iff c.underscore_not_mem_token).mp htext with rfl | ⟨rest, rfl⟩
    · exact .inl hname
    · refine .inr ⟨String.ofList rest, (hfollowed _).mpr ?_⟩
      simpa using hname
  · rintro (hname | ⟨rest, hname⟩)
    · exact ⟨_, hname, (takeWhile_ne_eq_iff c.underscore_not_mem_token).mpr (.inl rfl)⟩
    · refine ⟨_, (hfollowed rest).mp hname, ?_⟩
      exact (takeWhile_ne_eq_iff c.underscore_not_mem_token).mpr (.inr ⟨rest.toList, rfl⟩)

/-- The second underscore of the scheme is not asked for: `ERR_FS` has a category, though it does
not begin with `ERR_FS_`. -/
theorem second_underscore_not_required :
    ¬ ∀ (name : String) (c : Category),
      ofCodeName? name = some c ↔ ∃ rest, name = "ERR_" ++ c.token ++ "_" ++ rest := by
  intro h
  obtain ⟨rest, hrest⟩ := (h "ERR_FS" .filesystem).mp (by decide)
  have hlength := congrArg String.length hrest
  simp only [String.length_append] at hlength
  have htoo : 6 = 4 + 2 + 1 + rest.length := hlength
  omega

end Category

end StatusCodes
