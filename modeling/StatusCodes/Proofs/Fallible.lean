/-!
# Steps that can fail, made in order

Most functions of the library answer with a value or with what went wrong, and the larger ones
are made of smaller ones in order. The lemmas below take such a sequence apart: it answers with a
value when every step does, and with an error when some step does and all before it had values.
The second half is what makes "the first wrong entry" a matter of the order of the entries alone.
If all steps that fail would fail alike, not even the order is left: then what a list comes to is
known from its members.
-/

namespace StatusCodes.Fallible

variable {ε ε' α β : Type}

theorem bind_eq_ok_iff {x : Except ε α} {f : α → Except ε β} {b : β} :
    x >>= f = .ok b ↔ ∃ a, x = .ok a ∧ f a = .ok b := by
  cases x <;> simp [bind, Except.bind]

theorem bind_eq_error_iff {x : Except ε α} {f : α → Except ε β} {e : ε} :
    x >>= f = .error e ↔ x = .error e ∨ ∃ a, x = .ok a ∧ f a = .error e := by
  cases x <;> simp [bind, Except.bind]

@[simp] theorem pure_eq_ok_iff {a b : α} : (pure a : Except ε α) = .ok b ↔ a = b := by
  simp [pure, Except.pure]

@[simp] theorem pure_ne_error {a : α} {e : ε} : (pure a : Except ε α) ≠ .error e := by
  simp [pure, Except.pure]

/-- A step that is followed only by an answer is the one that fails. -/
theorem eq_error_of_bind_pure {x : Except ε α} {f : α → β} {e : ε}
    (h : (x >>= fun a => pure (f a)) = .error e) : x = .error e := by
  rcases bind_eq_error_iff.mp h with hx | ⟨a, -, hpure⟩
  · exact hx
  · exact absurd hpure pure_ne_error

/-- A step behind a check fails with what the check says, or passes the check and fails later. -/
theorem ite_error_eq_error_iff {p : Prop} [Decidable p] {x : Except ε α} {d e : ε} :
    (if p then .error d else x) = .error e ↔ p ∧ d = e ∨ ¬ p ∧ x = .error e := by
  by_cases h : p <;> simp [h]

theorem mapError_eq_ok_iff {x : Except ε α} {f : ε → ε'} {a : α} :
    x.mapError f = .ok a ↔ x = .ok a := by
  cases x with
  | ok b =>
      constructor
      · intro h
        rw [Except.ok.inj h]
      · intro h
        rw [Except.ok.inj h]
        rfl
  | error d =>
      constructor
      · intro h
        cases h
      · intro h
        cases h

theorem mapError_eq_error_iff {x : Except ε α} {f : ε → ε'} {e : ε'} :
    x.mapError f = .error e ↔ ∃ d, x = .error d ∧ f d = e := by
  cases x with
  | ok b =>
      constructor
      · intro h
        cases h
      · rintro ⟨d, h, -⟩
        cases h
  | error d =>
      constructor
      · intro h
        exact ⟨d, rfl, Except.error.inj h⟩
      · rintro ⟨_, h, rfl⟩
        cases h
        rfl

theorem map_eq_ok_iff {x : Except ε α} {f : α → β} {b : β} :
    x.map f = .ok b ↔ ∃ a, x = .ok a ∧ f a = b := by
  cases x <;> simp [Except.map]

theorem map_eq_error_iff {x : Except ε α} {f : α → β} {e : ε} :
    x.map f = .error e ↔ x = .error e := by
  cases x <;> simp [Except.map]

theorem toOption_eq_some_iff {x : Except ε α} {a : α} : x.toOption = some a ↔ x = .ok a := by
  cases x <;> simp [Except.toOption]

theorem toOption_eq_none_iff {x : Except ε α} : x.toOption = none ↔ ∃ e, x = .error e := by
  cases x <;> simp [Except.toOption]

theorem toOption_bind (x : Except ε α) (f : α → Except ε β) :
    (x >>= f).toOption = x.toOption.bind fun a => (f a).toOption := by
  cases x <;> rfl

/-- A chain of steps comes to the same value if each of its steps does. -/
theorem toOption_foldlM {f g : α → β → Except ε α}
    (h : ∀ a b, (f a b).toOption = (g a b).toOption) (a : α) (bs : List β) :
    (bs.foldlM f a).toOption = (bs.foldlM g a).toOption := by
  induction bs generalizing a with
  | nil => rfl
  | cons b bs ih =>
      rw [List.foldlM_cons, List.foldlM_cons, toOption_bind, toOption_bind, h, funext ih]

/-- A chain of steps fails with the error of one of them. -/
theorem exists_of_foldlM_eq_error {f : α → β → Except ε α} {a : α} {bs : List β} {e : ε}
    (h : bs.foldlM f a = .error e) : ∃ a', ∃ b ∈ bs, f a' b = .error e := by
  induction bs generalizing a with
  | nil => cases h
  | cons b bs ih =>
      rw [List.foldlM_cons] at h
      rcases bind_eq_error_iff.mp h with hb | ⟨a', -, hrest⟩
      · exact ⟨a, b, List.mem_cons_self, hb⟩
      · obtain ⟨a'', c, hc, he⟩ := ih hrest
        exact ⟨a'', c, List.mem_cons_of_mem _ hc, he⟩

/-- A list of steps has the values of the steps, in their order. -/
theorem mapM_eq_ok_iff {f : α → Except ε β} {xs : List α} {ys : List β} :
    xs.mapM f = .ok ys ↔ xs.map f = ys.map .ok := by
  induction xs generalizing ys with
  | nil => cases ys <;> simp
  | cons x xs ih =>
      rw [List.mapM_cons, bind_eq_ok_iff, List.map_cons]
      constructor
      · rintro ⟨y, hy, h⟩
        obtain ⟨rest, hrest, hpure⟩ := bind_eq_ok_iff.mp h
        rw [← pure_eq_ok_iff.mp hpure, hy, ih.mp hrest, List.map_cons]
      · intro h
        cases ys with
        | nil => cases h
        | cons y rest =>
            obtain ⟨hy, hrest⟩ := List.cons.inj h
            exact ⟨y, hy, bind_eq_ok_iff.mpr ⟨rest, ih.mpr hrest, rfl⟩⟩

/-- A list of steps fails with the first of them that fails. -/
theorem mapM_eq_error_iff {f : α → Except ε β} {xs : List α} {e : ε} :
    xs.mapM f = .error e ↔
      ∃ before x after, xs = before ++ x :: after ∧ (∀ y ∈ before, ∃ b, f y = .ok b) ∧
        f x = .error e := by
  induction xs with
  | nil => simp
  | cons x xs ih =>
      rw [List.mapM_cons, bind_eq_error_iff]
      constructor
      · rintro (h | ⟨y, hy, h⟩)
        · exact ⟨[], x, xs, rfl, by simp, h⟩
        · obtain ⟨before, z, after, rfl, hbefore, hz⟩ := ih.mp (eq_error_of_bind_pure h)
          refine ⟨x :: before, z, after, rfl, ?_, hz⟩
          intro w hw
          rcases List.mem_cons.mp hw with rfl | hw
          · exact ⟨y, hy⟩
          · exact hbefore w hw
      · rintro ⟨before, z, after, hxs, hbefore, hz⟩
        cases before with
        | nil =>
            obtain ⟨rfl, rfl⟩ := List.cons.inj hxs
            exact .inl hz
        | cons w before =>
            obtain ⟨rfl, rfl⟩ := List.cons.inj hxs
            obtain ⟨y, hy⟩ := hbefore x List.mem_cons_self
            have hrest := ih.mpr
              ⟨before, z, after, rfl, fun v hv => hbefore v (List.mem_cons_of_mem _ hv), hz⟩
            exact .inr ⟨y, hy, bind_eq_error_iff.mpr (.inl hrest)⟩

theorem exists_mapM_eq_ok_iff {f : α → Except ε β} {xs : List α} :
    (∃ ys, xs.mapM f = .ok ys) ↔ ∀ x ∈ xs, ∃ y, f x = .ok y := by
  constructor
  · rintro ⟨ys, h⟩ x hx
    have hmem : f x ∈ ys.map Except.ok := mapM_eq_ok_iff.mp h ▸ List.mem_map_of_mem hx
    obtain ⟨y, -, hy⟩ := List.mem_map.mp hmem
    exact ⟨y, hy.symm⟩
  · intro h
    cases hm : xs.mapM f with
    | ok ys => exact ⟨ys, rfl⟩
    | error e =>
        obtain ⟨before, x, after, rfl, -, hx⟩ := mapM_eq_error_iff.mp hm
        obtain ⟨y, hy⟩ := h x (by simp)
        rw [hx] at hy
        cases hy

/-- The values of a list of steps are the values that some step of the list has. -/
theorem mem_of_mapM_eq_ok {f : α → Except ε β} {xs : List α} {ys : List β}
    (h : xs.mapM f = .ok ys) (y : β) : y ∈ ys ↔ ∃ x ∈ xs, f x = .ok y := by
  constructor
  · intro hy
    have hmem : Except.ok y ∈ xs.map f := mapM_eq_ok_iff.mp h ▸ List.mem_map_of_mem hy
    exact List.mem_map.mp hmem
  · rintro ⟨x, hx, hfx⟩
    have hmem : f x ∈ ys.map Except.ok := mapM_eq_ok_iff.mp h ▸ List.mem_map_of_mem hx
    obtain ⟨z, hz, hzx⟩ := List.mem_map.mp hmem
    rw [hfx] at hzx
    cases hzx
    exact hz

theorem exists_of_mapM_eq_error {f : α → Except ε β} {xs : List α} {e : ε}
    (h : xs.mapM f = .error e) : ∃ x ∈ xs, f x = .error e := by
  obtain ⟨before, x, after, rfl, -, hx⟩ := mapM_eq_error_iff.mp h
  exact ⟨x, List.mem_append_right _ List.mem_cons_self, hx⟩

/-- A list of steps comes to what the steps come to, whatever they are made of. -/
theorem mapM_congr {f : α → Except ε β} {xs ys : List α} (h : xs.map f = ys.map f) :
    xs.mapM f = ys.mapM f := by
  calc xs.mapM f
      = (xs.map f).mapM id := by rw [List.mapM_map, Function.id_comp]
    _ = (ys.map f).mapM id := by rw [h]
    _ = ys.mapM f := by rw [List.mapM_map, Function.id_comp]

/-- The same error, or lists with the same members. -/
inductive SameMembers : Except ε (List α) → Except ε (List α) → Prop
  | error (e : ε) : SameMembers (.error e) (.error e)
  | ok {xs ys : List α} (h : ∀ x, x ∈ xs ↔ x ∈ ys) : SameMembers (.ok xs) (.ok ys)

theorem SameMembers.refl (x : Except ε (List α)) : SameMembers x x := by
  cases x with
  | ok xs => exact .ok fun _ => Iff.rfl
  | error e => exact .error e

theorem SameMembers.bind_eq {x y : Except ε (List α)} (h : SameMembers x y)
    {f : List α → Except ε β}
    (hf : ∀ as bs, x = .ok as → y = .ok bs → (∀ a, a ∈ as ↔ a ∈ bs) → f as = f bs) :
    x >>= f = y >>= f := by
  cases h with
  | error e => rfl
  | ok hsame => exact hf _ _ rfl rfl hsame

/-- Neither the order of the steps matters nor how often each is made, if those that fail fail
alike. -/
theorem mapM_sameMembers {f : α → Except ε β} {xs ys : List α} (hsame : ∀ x, x ∈ xs ↔ x ∈ ys)
    (halike : ∀ x ∈ xs, ∀ y ∈ xs, ∀ d e, f x = .error d → f y = .error e → d = e) :
    SameMembers (xs.mapM f) (ys.mapM f) := by
  cases hx : xs.mapM f with
  | ok as =>
      have hall := exists_mapM_eq_ok_iff.mp ⟨as, hx⟩
      simp only [hsame] at hall
      obtain ⟨bs, hy⟩ := exists_mapM_eq_ok_iff.mpr hall
      rw [hy]
      refine .ok fun b => ?_
      rw [mem_of_mapM_eq_ok hx, mem_of_mapM_eq_ok hy]
      simp only [hsame]
  | error d =>
      obtain ⟨x, hxs, hd⟩ := exists_of_mapM_eq_error hx
      cases hy : ys.mapM f with
      | ok bs =>
          obtain ⟨b, hb⟩ := exists_mapM_eq_ok_iff.mp ⟨bs, hy⟩ x ((hsame x).mp hxs)
          rw [hd] at hb
          cases hb
      | error e =>
          obtain ⟨y, hys, he⟩ := exists_of_mapM_eq_error hy
          rw [halike x hxs y ((hsame y).mpr hys) d e hd he]
          exact .error e

end StatusCodes.Fallible
