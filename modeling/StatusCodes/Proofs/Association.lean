import Mathlib.Data.List.Forall2
import StatusCodes.Association

/-!
# Keys that stand in a list once

As long as no key is given a second value, a list of pairs is what was put into it, in that
order, and looking a key up finds the pair that it stands in, wherever that is. So the order of the
pairs does not matter to who looks keys up.
-/

namespace StatusCodes.Association

variable {κ α : Type} [DecidableEq κ]

theorem put_of_not_mem {pairs : List (κ × α)} {key : κ} (h : key ∉ pairs.map Prod.fst)
    (value : α) : put pairs key value = pairs ++ [(key, value)] := by
  induction pairs with
  | nil => rfl
  | cons p rest ih =>
      obtain ⟨k, v⟩ := p
      rw [List.map_cons, List.mem_cons, not_or] at h
      rw [put, if_neg (Ne.symm h.1), ih h.2, List.cons_append]

theorem lookup_of_mem {pairs : List (κ × α)} (h : (pairs.map Prod.fst).Nodup) {key : κ}
    {value : α} (hmem : (key, value) ∈ pairs) : pairs.lookup key = some value := by
  induction pairs with
  | nil => cases hmem
  | cons p rest ih =>
      obtain ⟨k, v⟩ := p
      rw [List.map_cons, List.nodup_cons] at h
      rcases List.mem_cons.mp hmem with heq | hrest
      · cases heq
        exact List.lookup_cons_self
      · have hne : key ≠ k := by
          rintro rfl
          exact h.1 (List.mem_map.mpr ⟨_, hrest, rfl⟩)
        rw [List.lookup_cons, beq_false_of_ne hne]
        exact ih h.2 hrest

theorem lookup_eq_some_iff_mem {pairs : List (κ × α)} (h : (pairs.map Prod.fst).Nodup) {key : κ}
    {value : α} : pairs.lookup key = some value ↔ (key, value) ∈ pairs := by
  refine ⟨fun hfound => ?_, lookup_of_mem h⟩
  obtain ⟨before, after, rfl, -⟩ := List.lookup_eq_some_iff.mp hfound
  exact List.mem_append_right _ List.mem_cons_self

theorem lookup_perm {pairs others : List (κ × α)} (h : (pairs.map Prod.fst).Nodup)
    (hperm : pairs.Perm others) (key : κ) : pairs.lookup key = others.lookup key := by
  have hothers : (others.map Prod.fst).Nodup := (hperm.map Prod.fst).nodup_iff.mp h
  ext value
  rw [lookup_eq_some_iff_mem h, lookup_eq_some_iff_mem hothers, hperm.mem_iff]

/-- The same key, and related values under it. -/
inductive SameKey (R : α → α → Prop) : κ × α → κ × α → Prop
  | intro (key : κ) {v w : α} (h : R v w) : SameKey R (key, v) (key, w)

theorem rel_lookup {R : α → α → Prop} {pairs others : List (κ × α)}
    (h : List.Forall₂ (SameKey R) pairs others) (key : κ) :
    Option.Rel R (pairs.lookup key) (others.lookup key) := by
  induction h with
  | nil => exact .none
  | cons hpair _ ih =>
      obtain ⟨k, hvalues⟩ := hpair
      by_cases hk : key = k
      · subst hk
        rw [List.lookup_cons_self, List.lookup_cons_self]
        exact .some hvalues
      · rw [List.lookup_cons, List.lookup_cons, beq_false_of_ne hk]
        exact ih

end StatusCodes.Association
