import Mathlib.Data.List.Forall2
import StatusCodes.Proofs.Names

/-!
# Reading names, values and tokens

Three readers find something in a table: a code by its name, a code by its value, and a category by
its token. Each of them is told what it is to find by a relation between the entries of the table
and what stands for them. It finds an entry exactly where the relation holds, and refuses everything
else as a wrong parameter, quoting it. For names and values the relation is equality. For tokens it
goes character by character, and lets a character stand for another only if both are the same
letter of ASCII, so that a token is never spelled in another alphabet.
-/

namespace StatusCodes

namespace Text

/-- The same character, or a capital of ASCII and the small letter that goes with it. -/
def SameLetter (c d : Char) : Prop :=
  c = d ∨ (c.isUpper = true ∧ d.toNat = c.toNat + 32) ∨ (d.isUpper = true ∧ c.toNat = d.toNat + 32)

theorem isUpper_iff {c : Char} : c.isUpper = true ↔ 65 ≤ c.toNat ∧ c.toNat ≤ 90 :=
  decide_eq_true_iff

theorem toNat_toLower (c : Char) :
    c.toLower.toNat = if c.isUpper then c.toNat + 32 else c.toNat := by
  unfold Char.toLower
  split
  · next hbounds =>
      have hlast : c.toNat ≤ 90 := hbounds.2
      rw [if_pos (isUpper_iff.mpr hbounds)]
      change (c.val + 32).toNat = c.toNat + 32
      rw [UInt32.toNat_add]
      change (c.toNat + 32) % 2 ^ 32 = c.toNat + 32
      omega
  · next hbounds => rw [if_neg (mt isUpper_iff.mp hbounds)]

theorem toLower_eq_iff {c d : Char} : c.toLower = d.toLower ↔ SameLetter c d := by
  rw [← Char.toNat_inj, toNat_toLower, toNat_toLower, SameLetter, ← Char.toNat_inj]
  simp only [isUpper_iff]
  split <;> split <;> omega

/-- Only a letter of ASCII stands for one. -/
theorem SameLetter.toNat_lt {c d : Char} (h : SameLetter c d) (hd : d.isUpper = true) :
    c.toNat < 0x80 := by
  rw [isUpper_iff] at hd
  rcases h with rfl | ⟨hupper, -⟩ | ⟨-, hsmall⟩
  · omega
  · rw [isUpper_iff] at hupper
    omega
  · omega

/-- Two names are the same but for the case of letters. -/
def SameName (a b : String) : Prop :=
  List.Forall₂ SameLetter a.toList b.toList

theorem folded_eq_iff {a b : String} : folded a = folded b ↔ SameName a b := by
  rw [folded, folded, ← List.forall₂_eq_eq_eq, List.forall₂_map_left_iff,
    List.forall₂_map_right_iff]
  simp only [toLower_eq_iff, SameName]

theorem SameName.toNat_lt {a b : String} (h : SameName a b)
    (hb : ∀ d ∈ b.toList, d.isUpper = true) : ∀ c ∈ a.toList, c.toNat < 0x80 := by
  intro c hc
  obtain ⟨i, hi, rfl⟩ := List.getElem_of_mem hc
  have hlength := List.Forall₂.length_eq h
  exact (h.get hi (hlength ▸ hi)).toNat_lt (hb _ (List.getElem_mem _))

end Text

/-! ## Readers of tables -/

/-- A reader finds an entry of its table for what stands for the entry. Anything that stands for
none is a wrong parameter, and quoted. -/
def ReadsExactly {α β : Type} (read : α → Except Unknown β) (standsFor : α → β → Prop)
    (complaint : α → String) : Prop :=
  (∀ x b, read x = .ok b ↔ standsFor x b) ∧
    ∀ x, (∀ b, ¬ standsFor x b) → ∃ f, (read x).mapError Unknown.fault = .error f ∧
      f.code = .genInvalidParam ∧ f.text = complaint x

theorem readsExactly_of_iff {α β : Type} {read : α → Except Unknown β} {standsFor : α → β → Prop}
    {unknown : α → Unknown} (hok : ∀ x b, read x = .ok b ↔ standsFor x b)
    (herror : ∀ x u, read x = .error u → u = unknown x) :
    ReadsExactly read standsFor fun x => (unknown x).message := by
  refine ⟨hok, fun x hnone => ?_⟩
  cases hread : read x with
  | ok b => exact absurd ((hok x b).mp hread) (hnone b)
  | error u => exact ⟨u.fault, rfl, rfl, congrArg Unknown.message (herror x u hread)⟩

theorem Code.toInt_eq_value_iff {w : Int32} {c : Code} : w.toInt = c.value ↔ w = c.raw := by
  rw [← Code.raw_toInt, Int32.toInt_inj]

theorem Code.ofWord_eq_ok_iff {w : Int32} {c : Code} : Code.ofWord w = .ok c ↔ w = c.raw := by
  rw [← Code.toInt_eq_value_iff, ← Code.ofValue?_eq_some_iff, Code.ofWord]
  cases Code.ofValue? w.toInt <;> simp

theorem Code.unknown_of_ofWord {w : Int32} {u : Unknown} (h : Code.ofWord w = .error u) :
    u = .value w := by
  rw [Code.ofWord] at h
  split at h
  · cases h
  · cases h
    rfl

theorem Category.parse_eq_ok_iff_sameName {s : String} {k : Category} :
    Category.parse s = .ok k ↔ Text.SameName s k.token :=
  Category.parse_eq_ok_iff.trans Text.folded_eq_iff

theorem Category.isUpper_of_mem_token (k : Category) :
    ∀ c ∈ k.token.toList, c.isUpper = true :=
  List.all_eq_true.mp (by cases k <;> rfl)

/-- A code is found by its name as it is written, and so is the category that the name spells. A
code is found by its value, in the same way with and without a complaint. A category is found by
its token in any letter case: a text is the token of one category at most, and only if it is written
in ASCII. Whatever is not found is a wrong parameter, and the complaint quotes it. -/
theorem tables_read_exactly :
    ReadsExactly Code.parse (fun s c => s = c.name)
      (fun s => "unknown error code name '" ++ s ++ "'") ∧
    (∀ (s : String) (c : Code), Code.parse s = .ok c → Category.ofCodeName? s = c.category) ∧
    ReadsExactly Code.ofWord (fun w c => w = c.raw)
      (fun w => toString w.toInt ++ " is not a known error code") ∧
    (∀ (w : Int32) (c : Code), Code.ofValue? w.toInt = some c ↔ w = c.raw) ∧
    ReadsExactly Category.parse (fun s k => Text.SameName s k.token)
      (fun s => "unknown error category '" ++ s ++ "'") ∧
    (∀ (s : String) (j k : Category), Text.SameName s j.token → Text.SameName s k.token → j = k) ∧
    ∀ (s : String) (k : Category), Text.SameName s k.token → ∀ c ∈ s.toList, c.toNat < 0x80 := by
  refine ⟨?_, ?_, ?_, ?_, ?_, ?_, ?_⟩
  · exact readsExactly_of_iff (fun s c => Code.parse_eq_ok_iff)
      fun s u h => (Code.parse_eq_error_iff.mp h).2
  · intro s c h
    rw [Code.parse_eq_ok_iff.mp h]
    exact Code.ofCodeName?_name c
  · exact readsExactly_of_iff (fun w c => Code.ofWord_eq_ok_iff) fun w u => Code.unknown_of_ofWord
  · intro w c
    exact Code.ofValue?_eq_some_iff.trans Code.toInt_eq_value_iff
  · exact readsExactly_of_iff (fun s k => Category.parse_eq_ok_iff_sameName)
      fun s u h => (Category.parse_eq_error_iff.mp h).2
  · intro s j k hj hk
    exact Category.folded_token_injective
      ((Text.folded_eq_iff.mpr hj).symm.trans (Text.folded_eq_iff.mpr hk))
  · intro s k h
    exact h.toNat_lt k.isUpper_of_mem_token

/-- The long s is a small s of another alphabet, and no letter of ours. -/
example : Category.parse "fs" = .ok .filesystem ∧ Category.parse "f\u017f" ≠ .ok .filesystem := by
  decide

end StatusCodes
