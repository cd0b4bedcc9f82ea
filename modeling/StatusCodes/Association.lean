/-!
# Values under keys

A list of pairs gives values to keys, in the order in which the keys first came up. Giving a key a
value a second time replaces the first value where it stands.
-/

namespace StatusCodes.Association

variable {κ : Type} [DecidableEq κ] {α : Type}

/-- Give a key a value. -/
def put : List (κ × α) → κ → α → List (κ × α)
  | [], key, value => [(key, value)]
  | (k, v) :: rest, key, value =>
      if k = key then (k, value) :: rest else (k, v) :: put rest key value

theorem lookup_put (pairs : List (κ × α)) (key : κ) (value : α) (k : κ) :
    (put pairs key value).lookup k = if k = key then some value else pairs.lookup k := by
  induction pairs with
  | nil =>
      by_cases h : k = key
      · simp [put, h]
      · simp [put, List.lookup_cons, h, beq_eq_false_iff_ne.mpr h]
  | cons pair rest ih =>
      obtain ⟨k', v⟩ := pair
      by_cases hk : k' = key
      · subst hk
        by_cases h : k = k'
        · simp [put, h]
        · simp [put, List.lookup_cons, h, beq_eq_false_iff_ne.mpr h]
      · by_cases h : k = k'
        · subst h
          simp [put, hk]
        · simp [put, hk, List.lookup_cons, beq_eq_false_iff_ne.mpr h, ih]

end StatusCodes.Association
