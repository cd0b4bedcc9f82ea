import StatusCodes.Policy.Document
import StatusCodes.Proofs.Fallible

/-!
# Two ways into a configuration

A part of a configuration is reached key by key, in one of two ways. One asks at each key whether
there is a section and has nothing to say if there is none. The other goes ahead and is stopped
where it cannot go on, with the reason. Both come to the same value, the one that the keys lead to
in the document, and both end at the first key that leads nowhere: the value there is no object, or
it is one without this key.

Where a text is looked for, a section is looked for that is a text. Where a policy is looked for and
there is no section, or an empty one, the standard policy is found.
-/

namespace StatusCodes

namespace Json

/-- Keys lead from a value to another, through one object for each key. -/
inductive Reaches : Json → List String → Json → Prop
  | here (v : Json) : Reaches v [] v
  | member {members : List (String × Json)} {key : String} {keys : List String} {v w : Json}
      (hv : members.lookup key = some v) (hw : Reaches v keys w) :
      Reaches (.object members) (key :: keys) w

/-- A key leads nowhere from a value, and why. -/
inductive Blocks (v : Json) (key : String) : AccessError → Prop
  | notAnObject (h : ∀ members, v ≠ .object members) : Blocks v key (.notAnObject key v)
  | noSuchKey {members : List (String × Json)} (h : v = .object members)
      (hkey : members.lookup key = none) : Blocks v key (.noSuchKey key v)

variable {u v w : Json} {key : String} {keys : List String}

theorem reaches_nil_iff : Reaches v [] w ↔ v = w := by
  constructor
  · rintro ⟨⟩
    rfl
  · rintro rfl
    exact .here v

theorem get?_eq_some_iff :
    v.get? key = some u ↔ ∃ members, v = .object members ∧ members.lookup key = some u := by
  cases v <;> simp [get?, members?]

theorem reaches_cons_iff :
    Reaches v (key :: keys) w ↔ ∃ u, v.get? key = some u ∧ Reaches u keys w := by
  constructor
  · rintro (_ | ⟨hu, hw⟩)
    exact ⟨_, get?_eq_some_iff.mpr ⟨_, rfl, hu⟩, hw⟩
  · rintro ⟨u, hu, hw⟩
    obtain ⟨members, rfl, hmember⟩ := get?_eq_some_iff.mp hu
    exact .member hmember hw

theorem member_eq_error_iff {e : AccessError} : v.member key = .error e ↔ Blocks v key e := by
  constructor
  · intro h
    cases v with
    | object members =>
        simp only [member] at h
        split at h
        · cases h
        · next hkey =>
            cases h
            exact .noSuchKey rfl hkey
    | _ =>
        cases h
        exact .notAnObject (by intro members hv; cases hv)
  · rintro (hv | ⟨rfl, hkey⟩)
    · cases v with
      | object members => exact absurd rfl (hv members)
      | _ => rfl
    · simp only [member, hkey]

end Json

namespace Config

/-- Go from section to section. -/
def sectionAt? (c : Config) (keys : List String) : Option Config :=
  keys.foldlM section? c

/-- Go on to the member under a key, or say why there is none. -/
def enter (c : Config) (key : String) : Except Json.AccessError Config :=
  (c.member key).map Config.mk

/-- Go from member to member, as far as there is one. -/
def enterAll (c : Config) (keys : List String) : Except Json.AccessError Config :=
  keys.foldlM enter c

variable {c d : Config} {key : String} {keys : List String} {e : Json.AccessError}

theorem section?_eq_some_iff : c.section? key = some d ↔ c.value.get? key = some d.value := by
  rw [section?, Option.map_eq_some_iff]
  constructor
  · rintro ⟨v, hv, rfl⟩
    exact hv
  · intro h
    exact ⟨d.value, h, rfl⟩

theorem toOption_enter (c : Config) (key : String) : (c.enter key).toOption = c.section? key := by
  rw [section?, ← Json.member_toOption, enter, member]
  cases c.value.member key <;> rfl

theorem enter_eq_ok_iff : c.enter key = .ok d ↔ c.value.get? key = some d.value := by
  rw [← Fallible.toOption_eq_some_iff, toOption_enter, section?_eq_some_iff]

theorem enter_eq_error_iff : c.enter key = .error e ↔ Json.Blocks c.value key e := by
  rw [← Json.member_eq_error_iff, enter, member]
  cases c.value.member key <;> simp [Except.map]

/-! ## Along several keys -/

theorem sectionAt?_cons (c : Config) (key : String) (rest : List String) :
    c.sectionAt? (key :: rest) = (c.section? key).bind fun d => d.sectionAt? rest := by
  rw [sectionAt?, List.foldlM_cons]
  rfl

theorem enterAll_cons (c : Config) (key : String) (rest : List String) :
    c.enterAll (key :: rest) = c.enter key >>= fun d => d.enterAll rest := by
  rw [enterAll, List.foldlM_cons]
  rfl

/-- Sections are found along the keys that lead to them in the document. -/
theorem sectionAt?_eq_some_iff :
    c.sectionAt? keys = some d ↔ Json.Reaches c.value keys d.value := by
  induction keys generalizing c with
  | nil =>
      rw [Json.reaches_nil_iff]
      constructor
      · intro h
        exact congrArg Config.value (Option.some.inj h)
      · intro h
        exact congrArg (fun v => some (Config.mk v)) h
  | cons key rest ih =>
      rw [Json.reaches_cons_iff, sectionAt?_cons, Option.bind_eq_some_iff]
      constructor
      · rintro ⟨next, hnext, hrest⟩
        exact ⟨next.value, section?_eq_some_iff.mp hnext, ih.mp hrest⟩
      · rintro ⟨u, hu, hrest⟩
        exact ⟨⟨u⟩, section?_eq_some_iff.mpr hu, ih.mpr hrest⟩

/-- Both ways come to the same configuration, or to none. -/
theorem toOption_enterAll (c : Config) (keys : List String) :
    (c.enterAll keys).toOption = c.sectionAt? keys := by
  induction keys generalizing c with
  | nil => rfl
  | cons key rest ih =>
      rw [enterAll_cons, sectionAt?_cons, Fallible.toOption_bind, toOption_enter]
      exact congrArg _ (funext ih)

/-- Going from member to member is stopped at the first key that leads nowhere. -/
theorem enterAll_eq_error_iff :
    c.enterAll keys = .error e ↔ ∃ before key after w, keys = before ++ key :: after ∧
      Json.Reaches c.value before w ∧ Json.Blocks w key e := by
  induction keys generalizing c with
  | nil =>
      constructor
      · intro h
        cases h
      · rintro ⟨before, key, after, w, hkeys, -⟩
        have hne := List.append_ne_nil_of_right_ne_nil before (List.cons_ne_nil key after)
        exact absurd hkeys.symm hne
  | cons first rest ih =>
      rw [enterAll_cons, Fallible.bind_eq_error_iff]
      constructor
      · rintro (hfirst | ⟨next, hnext, hrest⟩)
        · exact ⟨[], first, rest, c.value, rfl, .here c.value, enter_eq_error_iff.mp hfirst⟩
        · obtain ⟨before, key, after, w, rfl, hreaches, hblocks⟩ := ih.mp hrest
          exact ⟨first :: before, key, after, w, rfl,
            Json.reaches_cons_iff.mpr ⟨next.value, enter_eq_ok_iff.mp hnext, hreaches⟩, hblocks⟩
      · rintro ⟨before, key, after, w, hkeys, hreaches, hblocks⟩
        cases before with
        | nil =>
            obtain ⟨rfl, rfl⟩ := List.cons.inj hkeys
            rw [← Json.reaches_nil_iff.mp hreaches] at hblocks
            exact .inl (enter_eq_error_iff.mpr hblocks)
        | cons k before =>
            obtain ⟨rfl, rfl⟩ := List.cons.inj hkeys
            obtain ⟨u, hu, hreaches⟩ := Json.reaches_cons_iff.mp hreaches
            exact .inr ⟨⟨u⟩, enter_eq_ok_iff.mpr hu,
              ih.mpr ⟨before, key, after, w, rfl, hreaches, hblocks⟩⟩

/-! ## What is found in a section -/

theorem string?_eq_some_iff {s : String} :
    d.string? key = some s ↔ ∃ p, d.section? key = some p ∧ p.value = .string s := by
  rw [string?, Option.bind_eq_some_iff]
  constructor
  · rintro ⟨v, hv, hs⟩
    refine ⟨⟨v⟩, section?_eq_some_iff.mpr hv, ?_⟩
    cases v with
    | string t =>
        cases hs
        rfl
    | _ => cases hs
  · rintro ⟨p, hp, hs⟩
    refine ⟨p.value, section?_eq_some_iff.mp hp, ?_⟩
    rw [hs]
    rfl

/-- Where there is no section, or one that holds nothing, the empty configuration is read. -/
theorem sectionOrEmpty_eq_empty
    (h : ∀ members, d.value = .object members →
      members.lookup key = none ∨ members.lookup key = some .null) :
    d.sectionOrEmpty key = empty := by
  rw [sectionOrEmpty]
  cases hp : d.section? key with
  | none => rfl
  | some p =>
      obtain ⟨members, hvalue, hmember⟩ := Json.get?_eq_some_iff.mp (section?_eq_some_iff.mp hp)
      rcases h members hvalue with hnone | hnull
      · rw [hmember] at hnone
        cases hnone
      · rw [hmember] at hnull
        exact congrArg Config.mk (Option.some.inj hnull)

/-- Along any keys, a section is found exactly where the keys lead in the document, and going from
member to member comes to it without being stopped. Otherwise neither way comes to anything, and the
key at which the second is stopped is the first that leads nowhere. In a section that is found, a
text is one that would be found as a section, and the policy under a key that is absent or null is
the standard policy. -/
theorem sections_and_members_agree (c : Config) (keys : List String) :
    (∀ d, c.sectionAt? keys = some d ↔ Json.Reaches c.value keys d.value) ∧
    (∀ d, c.enterAll keys = .ok d ↔ c.sectionAt? keys = some d) ∧
    (c.sectionAt? keys = none ↔ ∃ e, c.enterAll keys = .error e) ∧
    (∀ e, c.enterAll keys = .error e ↔ ∃ before key after w, keys = before ++ key :: after ∧
      Json.Reaches c.value before w ∧ Json.Blocks w key e) ∧
    ∀ d, c.sectionAt? keys = some d →
      (∀ key s, d.string? key = some s ↔ ∃ p, d.section? key = some p ∧ p.value = .string s) ∧
      ∀ key, (∀ members, d.value = .object members →
          members.lookup key = none ∨ members.lookup key = some .null) →
        Policy.ofConfig (d.sectionOrEmpty key) = .ok .standard := by
  refine ⟨fun d => sectionAt?_eq_some_iff, ?_, ?_, fun e => enterAll_eq_error_iff, ?_⟩
  · intro d
    rw [← toOption_enterAll, Fallible.toOption_eq_some_iff]
  · rw [← toOption_enterAll, Fallible.toOption_eq_none_iff]
  · intro d _
    refine ⟨fun key s => string?_eq_some_iff, ?_⟩
    intro key h
    rw [sectionOrEmpty_eq_empty h]
    rfl

/-- A policy under two keys is found in both ways, and the first of two wrong keys is the one at
which the second way is stopped. -/
example :
    let policy : Json := .object [("level", .string "error")]
    let c : Config := ⟨.object [("log", .object [("report", policy)])]⟩
    c.enterAll ["log", "report"] = .ok ⟨policy⟩ ∧
      c.enterAll ["log", "file", "path"] =
        .error (.noSuchKey "file" (.object [("report", policy)])) := by
  exact ⟨rfl, rfl⟩

end Config

end StatusCodes
