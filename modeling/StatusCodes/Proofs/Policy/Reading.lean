import StatusCodes.Policy.Document
import StatusCodes.Proofs.Fallible
import StatusCodes.Proofs.Names
import StatusCodes.Proofs.Policy.Changes

/-!
# Which documents are policies, and what they mean

The rules for writing a policy are told here once more, this time of the document alone: when each
of its three entries is as it should be, what is complained of first when one is not, and which
level the document gives a code. Nothing below goes through the reader, so that its agreement with
the reader says something: a value is accepted exactly if it follows the rules, a refusal carries
the complaint about the first wrong entry, and the policy that comes out gives every code the
level that the document gives it.

The members of an object have an order here, but nothing in the rules depends on it as long as the
document leaves no choice. Two wrong entries under `categories` would leave one as to the
complaint, and two levels for one category as to the meaning.
-/

namespace StatusCodes.Policy

/-! ## The rules -/

/-- The value is a text that stands for a level. -/
def NamesLevel (v : Json) (l : Level) : Prop :=
  ∃ s, v = .string s ∧ Level.ofText? s = some l

/-- The key is the token of a category, up to the case of ASCII letters. -/
def NamesCategory (key : String) (k : Category) : Prop :=
  Text.folded key = Text.folded k.token

/-- The value is the published name of a code. -/
def NamesCode (v : Json) (c : Code) : Prop :=
  v = .string c.name

def IsOverride (e : String × Json) : Prop :=
  (∃ k, NamesCategory e.1 k) ∧ ∃ l, NamesLevel e.2 l

def LevelFine (v : Json) : Prop :=
  ∀ w, v.get? "level" = some w → ∃ l, NamesLevel w l

def CategoriesFine (v : Json) : Prop :=
  ∀ w, v.get? "categories" = some w → ∃ entries, w = .object entries ∧ ∀ e ∈ entries, IsOverride e

def MuteFine (v : Json) : Prop :=
  ∀ w, v.get? "mute" = some w → ∃ items, w = .array items ∧ ∀ i ∈ items, ∃ c, NamesCode i c

/-- The value follows the rules: it is null, or an object in which each entry that is there is as
it should be. -/
def IsPolicy (v : Json) : Prop :=
  v = .null ∨ (∃ members, v = .object members) ∧ LevelFine v ∧ CategoriesFine v ∧ MuteFine v

/-- What is said of a value that stands for no level. -/
inductive LevelComplaint : Json → String → Prop
  | notText {v} : (∀ s, v ≠ .string s) → LevelComplaint v "log level must be a string"
  | unknown {s} : Level.ofText? s = none →
      LevelComplaint (.string s) s!"unknown log level '{s}'"

/-- What is said of a wrong entry under `categories`: its name comes before its level. -/
inductive OverrideComplaint : String × Json → String → Prop
  | category {key v} : (∀ k, ¬ NamesCategory key k) →
      OverrideComplaint (key, v) s!"unknown error category '{key}'"
  | level {key v k t} : NamesCategory key k → LevelComplaint v t → OverrideComplaint (key, v) t

/-- What is said of a wrong entry of `mute`. -/
inductive CodeComplaint : Json → String → Prop
  | notText {v} : (∀ s, v ≠ .string s) → CodeComplaint v "'mute' entries must be code names"
  | unknown {s} : (∀ c, s ≠ Code.name c) →
      CodeComplaint (.string s) s!"unknown error code name '{s}'"

/-- What is said of a value that is no policy: the complaint about the first wrong entry, in the
order `level`, `categories`, `mute`, and in `mute` from left to right. -/
inductive Complaint : Json → String → Prop
  | notAnObject {v} : v ≠ .null → (∀ members, v ≠ .object members) →
      Complaint v "report policy must be an object"
  | level {v w t} : v.get? "level" = some w → LevelComplaint w t → Complaint v t
  | categoriesNotAnObject {v w} : LevelFine v → v.get? "categories" = some w →
      (∀ entries, w ≠ .object entries) → Complaint v "'categories' must be an object"
  | category {v entries e t} : LevelFine v → v.get? "categories" = some (.object entries) →
      e ∈ entries → OverrideComplaint e t → Complaint v t
  | muteNotAnArray {v w} : LevelFine v → CategoriesFine v → v.get? "mute" = some w →
      (∀ items, w ≠ .array items) → Complaint v "'mute' must be an array"
  | muteEntry {v before i after t} : LevelFine v → CategoriesFine v →
      v.get? "mute" = some (.array (before ++ i :: after)) →
      (∀ j ∈ before, ∃ c, NamesCode j c) → CodeComplaint i t → Complaint v t

/-- At most one entry under `categories` is wrong. -/
def OneWrongOverride (v : Json) : Prop :=
  ∀ entries, v.get? "categories" = some (.object entries) →
    ∀ e ∈ entries, ∀ e' ∈ entries, ¬ IsOverride e → ¬ IsOverride e' → e = e'

/-- The document never has the code reported. -/
def Mutes (v : Json) (c : Code) : Prop :=
  ∃ items, v.get? "mute" = some (.array items) ∧ ∃ i ∈ items, NamesCode i c

/-- The document gives the category a level of its own. -/
def Gives (v : Json) (k : Category) (l : Level) : Prop :=
  ∃ entries, v.get? "categories" = some (.object entries) ∧
    ∃ e ∈ entries, NamesCategory e.1 k ∧ NamesLevel e.2 l

/-- No category is given two levels. -/
def Unambiguous (v : Json) : Prop :=
  ∀ k l l', Gives v k l → Gives v k l' → l = l'

/-- The level of failures whose category has none of its own. -/
def GivesDefault (v : Json) (l : Level) : Prop :=
  match v.get? "level" with
  | some w => NamesLevel w l
  | none => l = .warn

/-- The level that the document gives a code that is reported. -/
def GivesCode (v : Json) (c : Code) (l : Level) : Prop :=
  (∃ k, c.category = some k ∧ Gives v k l) ∨
    (∀ k l', c.category = some k → ¬ Gives v k l') ∧ GivesDefault v l

/-! ## The readers of single entries -/

theorem readLevel_eq_ok_iff {v : Json} {l : Level} : readLevel v = .ok l ↔ NamesLevel v l := by
  cases v with
  | string s =>
      simp only [readLevel, Fallible.mapError_eq_ok_iff, Level.parse_eq_ok_iff, NamesLevel,
        Json.string.injEq, exists_eq_left']
  | _ => simp [readLevel, NamesLevel]

theorem levelComplaint_iff {v : Json} {t : String} :
    LevelComplaint v t ↔ ∃ d, readLevel v = .error d ∧ d.fault.text = t := by
  constructor
  · rintro (h | h)
    · cases v with
      | string s => exact absurd rfl (h s)
      | _ => exact ⟨.levelNotText, rfl, rfl⟩
    · next s =>
      refine ⟨.unknown (.level s), ?_, rfl⟩
      rw [readLevel, Fallible.mapError_eq_error_iff]
      exact ⟨.level s, Level.parse_eq_error_iff.mpr ⟨h, rfl⟩, rfl⟩
  · rintro ⟨d, hd, rfl⟩
    cases v with
    | string s =>
        rw [readLevel, Fallible.mapError_eq_error_iff] at hd
        obtain ⟨u, hu, rfl⟩ := hd
        obtain ⟨hs, rfl⟩ := Level.parse_eq_error_iff.mp hu
        exact .unknown hs
    | _ =>
        cases hd
        exact .notText (by simp)

theorem readCode_eq_ok_iff {v : Json} {c : Code} : readCode v = .ok c ↔ NamesCode v c := by
  cases v with
  | string s =>
      simp only [readCode, Fallible.mapError_eq_ok_iff, Code.parse_eq_ok_iff, NamesCode,
        Json.string.injEq]
  | _ => simp [readCode, NamesCode]

theorem codeComplaint_iff {v : Json} {t : String} :
    CodeComplaint v t ↔ ∃ d, readCode v = .error d ∧ d.fault.text = t := by
  constructor
  · rintro (h | h)
    · cases v with
      | string s => exact absurd rfl (h s)
      | _ => exact ⟨.muteEntryNotText, rfl, rfl⟩
    · next s =>
      refine ⟨.unknown (.codeName s), ?_, rfl⟩
      rw [readCode, Fallible.mapError_eq_error_iff]
      exact ⟨.codeName s, Code.parse_eq_error_iff.mpr ⟨h, rfl⟩, rfl⟩
  · rintro ⟨d, hd, rfl⟩
    cases v with
    | string s =>
        rw [readCode, Fallible.mapError_eq_error_iff] at hd
        obtain ⟨u, hu, rfl⟩ := hd
        obtain ⟨hs, rfl⟩ := Code.parse_eq_error_iff.mp hu
        exact .unknown hs
    | _ =>
        cases hd
        exact .notText (by simp)

theorem readOverride_eq_ok_iff {e : String × Json} {k : Category} {l : Level} :
    readOverride e = .ok (k, l) ↔ NamesCategory e.1 k ∧ NamesLevel e.2 l := by
  rw [readOverride, Fallible.bind_eq_ok_iff]
  constructor
  · rintro ⟨j, hj, h⟩
    obtain ⟨m, hm, hpure⟩ := Fallible.bind_eq_ok_iff.mp h
    cases Fallible.pure_eq_ok_iff.mp hpure
    rw [Fallible.mapError_eq_ok_iff, Category.parse_eq_ok_iff] at hj
    exact ⟨hj, readLevel_eq_ok_iff.mp hm⟩
  · rintro ⟨hk, hl⟩
    refine ⟨k, ?_, Fallible.bind_eq_ok_iff.mpr ⟨l, readLevel_eq_ok_iff.mpr hl, rfl⟩⟩
    rw [Fallible.mapError_eq_ok_iff, Category.parse_eq_ok_iff]
    exact hk

theorem isOverride_iff {e : String × Json} : IsOverride e ↔ ∃ m, readOverride e = .ok m := by
  constructor
  · rintro ⟨⟨k, hk⟩, l, hl⟩
    exact ⟨(k, l), readOverride_eq_ok_iff.mpr ⟨hk, hl⟩⟩
  · rintro ⟨⟨k, l⟩, h⟩
    obtain ⟨hk, hl⟩ := readOverride_eq_ok_iff.mp h
    exact ⟨⟨k, hk⟩, l, hl⟩

theorem overrideComplaint_iff {e : String × Json} {t : String} :
    OverrideComplaint e t ↔ ∃ d, readOverride e = .error d ∧ d.fault.text = t := by
  constructor
  · rintro (hkey | ⟨hk, hl⟩)
    · next key v =>
      refine ⟨.unknown (.category key), ?_, rfl⟩
      rw [readOverride, Fallible.bind_eq_error_iff, Fallible.mapError_eq_error_iff]
      exact .inl ⟨.category key, Category.parse_eq_error_iff.mpr ⟨hkey, rfl⟩, rfl⟩
    · next key v k =>
      obtain ⟨d, hd, ht⟩ := levelComplaint_iff.mp hl
      refine ⟨d, ?_, ht⟩
      rw [readOverride, Fallible.bind_eq_error_iff]
      refine .inr ⟨k, ?_, Fallible.bind_eq_error_iff.mpr (.inl hd)⟩
      rw [Fallible.mapError_eq_ok_iff, Category.parse_eq_ok_iff]
      exact hk
  · rintro ⟨d, hd, rfl⟩
    rw [readOverride, Fallible.bind_eq_error_iff] at hd
    rcases hd with hkey | ⟨k, hk, hd⟩
    · obtain ⟨u, hu, rfl⟩ := Fallible.mapError_eq_error_iff.mp hkey
      obtain ⟨hnone, rfl⟩ := Category.parse_eq_error_iff.mp hu
      exact .category hnone
    · rw [Fallible.mapError_eq_ok_iff, Category.parse_eq_ok_iff] at hk
      have hl := Fallible.eq_error_of_bind_pure hd
      exact .level hk (levelComplaint_iff.mpr ⟨d, hl, rfl⟩)

/-! ## The readers of the three members -/

theorem readDefault_eq_ok_iff {v : Json} {l : Level} :
    readDefault (v.get? "level") = .ok l ↔ GivesDefault v l := by
  rw [GivesDefault]
  cases v.get? "level" with
  | none => simp [readDefault, standard, uniform, eq_comm]
  | some w => exact readLevel_eq_ok_iff

theorem levelFine_iff {v : Json} : LevelFine v ↔ ∃ l, GivesDefault v l := by
  rw [LevelFine]
  unfold GivesDefault
  cases v.get? "level" <;> simp

theorem readDefault_eq_error_iff {v : Json} {d : Defect} :
    readDefault (v.get? "level") = .error d ↔
      ∃ w, v.get? "level" = some w ∧ readLevel w = .error d := by
  cases v.get? "level" <;> simp [readDefault]

theorem readCategories_of_not_object {w : Json} (h : ∀ entries, w ≠ .object entries) :
    readCategories (some w) = .error .categoriesNotAnObject := by
  cases w with
  | object entries => exact absurd rfl (h entries)
  | _ => rfl

theorem readCategories_error_cases {v : Json} {d : Defect}
    (h : readCategories (v.get? "categories") = .error d) :
    (∃ w, v.get? "categories" = some w ∧ (∀ entries, w ≠ .object entries) ∧
        d = .categoriesNotAnObject) ∨
      ∃ entries, v.get? "categories" = some (.object entries) ∧
        entries.mapM readOverride = .error d := by
  cases hv : v.get? "categories" with
  | none =>
      rw [hv] at h
      cases h
  | some w =>
      rw [hv] at h
      cases w with
      | object entries => exact .inr ⟨entries, rfl, h⟩
      | _ =>
          cases h
          exact .inl ⟨_, rfl, by simp, rfl⟩

theorem categoriesFine_iff {v : Json} :
    CategoriesFine v ↔ ∃ cs, readCategories (v.get? "categories") = .ok cs := by
  rw [CategoriesFine]
  cases hv : v.get? "categories" with
  | none => simp [readCategories]
  | some w =>
      cases w with
      | object entries =>
          rw [readCategories, Fallible.exists_mapM_eq_ok_iff]
          simp only [Option.some.injEq, forall_eq', Json.object.injEq, exists_eq_left',
            isOverride_iff]
      | _ => simp [readCategories]

theorem readMute_of_not_array {w : Json} (h : ∀ items, w ≠ .array items) :
    readMute (some w) = .error .muteNotAnArray := by
  cases w with
  | array items => exact absurd rfl (h items)
  | _ => rfl

theorem readMute_error_cases {v : Json} {d : Defect}
    (h : readMute (v.get? "mute") = .error d) :
    (∃ w, v.get? "mute" = some w ∧ (∀ items, w ≠ .array items) ∧ d = .muteNotAnArray) ∨
      ∃ items, v.get? "mute" = some (.array items) ∧ items.mapM readCode = .error d := by
  cases hv : v.get? "mute" with
  | none =>
      rw [hv] at h
      cases h
  | some w =>
      rw [hv] at h
      cases w with
      | array items => exact .inr ⟨items, rfl, h⟩
      | _ =>
          cases h
          exact .inl ⟨_, rfl, by simp, rfl⟩

theorem muteFine_iff {v : Json} : MuteFine v ↔ ∃ cs, readMute (v.get? "mute") = .ok cs := by
  rw [MuteFine]
  cases hv : v.get? "mute" with
  | none => simp [readMute]
  | some w =>
      cases w with
      | array items =>
          rw [readMute, Fallible.exists_mapM_eq_ok_iff]
          simp only [Option.some.injEq, forall_eq', Json.array.injEq, exists_eq_left',
            readCode_eq_ok_iff]
      | _ => simp [readMute]

/-! ## The whole document -/

theorem ofJson_object_eq_ok_iff {members : List (String × Json)} {p : Policy} :
    ofJson (.object members) = .ok p ↔
      ∃ l cs codes, readDefault ((Json.object members).get? "level") = .ok l ∧
        readCategories ((Json.object members).get? "categories") = .ok cs ∧
        readMute ((Json.object members).get? "mute") = .ok codes ∧ assemble l cs codes = p := by
  rw [ofJson, Fallible.bind_eq_ok_iff]
  constructor
  · rintro ⟨l, hl, h⟩
    obtain ⟨cs, hcs, h⟩ := Fallible.bind_eq_ok_iff.mp h
    obtain ⟨codes, hcodes, h⟩ := Fallible.bind_eq_ok_iff.mp h
    exact ⟨l, cs, codes, hl, hcs, hcodes, Fallible.pure_eq_ok_iff.mp h⟩
  · rintro ⟨l, cs, codes, hl, hcs, hcodes, hp⟩
    refine ⟨l, hl, Fallible.bind_eq_ok_iff.mpr ⟨cs, hcs, ?_⟩⟩
    exact Fallible.bind_eq_ok_iff.mpr ⟨codes, hcodes, Fallible.pure_eq_ok_iff.mpr hp⟩

theorem ofJson_object_eq_error_iff {members : List (String × Json)} {d : Defect} :
    ofJson (.object members) = .error d ↔
      readDefault ((Json.object members).get? "level") = .error d ∨
      LevelFine (.object members) ∧
        (readCategories ((Json.object members).get? "categories") = .error d ∨
          CategoriesFine (.object members) ∧
            readMute ((Json.object members).get? "mute") = .error d) := by
  rw [ofJson, Fallible.bind_eq_error_iff, levelFine_iff, categoriesFine_iff]
  simp only [← readDefault_eq_ok_iff]
  constructor
  · rintro (hl | ⟨l, hl, h⟩)
    · exact .inl hl
    · rcases Fallible.bind_eq_error_iff.mp h with hcs | ⟨cs, hcs, h⟩
      · exact .inr ⟨⟨l, hl⟩, .inl hcs⟩
      · have hcodes := Fallible.eq_error_of_bind_pure h
        exact .inr ⟨⟨l, hl⟩, .inr ⟨⟨cs, hcs⟩, hcodes⟩⟩
  · rintro (hl | ⟨⟨l, hl⟩, hcs | ⟨⟨cs, hcs⟩, hcodes⟩⟩)
    · exact .inl hl
    · exact .inr ⟨l, hl, Fallible.bind_eq_error_iff.mpr (.inl hcs)⟩
    · refine .inr ⟨l, hl, Fallible.bind_eq_error_iff.mpr (.inr ⟨cs, hcs, ?_⟩)⟩
      exact Fallible.bind_eq_error_iff.mpr (.inl hcodes)

theorem exists_ofJson_eq_ok_iff {v : Json} : (∃ p, ofJson v = .ok p) ↔ IsPolicy v := by
  cases v with
  | null => simp [ofJson, IsPolicy]
  | object members =>
      simp only [IsPolicy, levelFine_iff, categoriesFine_iff, muteFine_iff,
        ← readDefault_eq_ok_iff, ofJson_object_eq_ok_iff]
      constructor
      · rintro ⟨p, l, cs, codes, hl, hcs, hcodes, -⟩
        exact .inr ⟨⟨members, rfl⟩, ⟨l, hl⟩, ⟨cs, hcs⟩, codes, hcodes⟩
      · rintro (h | ⟨-, ⟨l, hl⟩, ⟨cs, hcs⟩, codes, hcodes⟩)
        · cases h
        · exact ⟨_, l, cs, codes, hl, hcs, hcodes, rfl⟩
  | _ => simp [ofJson, IsPolicy]

/-! ## The first complaint -/

/-- Whatever the order of the entries, what is complained of is a wrong entry that no other
comes before. -/
theorem complaint_of_ofJson {v : Json} {d : Defect} (h : ofJson v = .error d) :
    Complaint v d.fault.text := by
  cases v with
  | null => cases h
  | object members =>
      rcases ofJson_object_eq_error_iff.mp h with hl | ⟨hlevel, hcs | ⟨hcats, hcodes⟩⟩
      · obtain ⟨w, hw, hd⟩ := readDefault_eq_error_iff.mp hl
        exact .level hw (levelComplaint_iff.mpr ⟨d, hd, rfl⟩)
      · rcases readCategories_error_cases hcs with ⟨w, hw, hobj, rfl⟩ | ⟨entries, hw, hm⟩
        · exact .categoriesNotAnObject hlevel hw hobj
        · obtain ⟨before, e, after, rfl, -, he⟩ := Fallible.mapM_eq_error_iff.mp hm
          exact .category hlevel hw (by simp) (overrideComplaint_iff.mpr ⟨d, he, rfl⟩)
      · rcases readMute_error_cases hcodes with ⟨w, hw, harr, rfl⟩ | ⟨items, hw, hm⟩
        · exact .muteNotAnArray hlevel hcats hw harr
        · obtain ⟨before, i, after, rfl, hbefore, hi⟩ := Fallible.mapM_eq_error_iff.mp hm
          simp only [readCode_eq_ok_iff] at hbefore
          exact .muteEntry hlevel hcats hw hbefore (codeComplaint_iff.mpr ⟨d, hi, rfl⟩)
  | _ =>
      cases h
      exact .notAnObject (by simp) (by simp)

theorem not_isOverride_of_error {e : String × Json} {d : Defect} (h : readOverride e = .error d) :
    ¬ IsOverride e := by
  rw [isOverride_iff]
  rintro ⟨m, hm⟩
  rw [h] at hm
  cases hm

theorem object_of_get? {v w : Json} {key : String} (h : v.get? key = some w) :
    ∃ members, v = .object members := by
  cases v with
  | object members => exact ⟨members, rfl⟩
  | _ => cases h

/-- Where the document leaves no choice, what the rules complain of is what the reader says. -/
theorem ofJson_of_complaint {v : Json} {t : String} (hone : OneWrongOverride v)
    (h : Complaint v t) : ∃ d, ofJson v = .error d ∧ d.fault.text = t := by
  cases h with
  | notAnObject hnull hobj =>
      cases v with
      | null => exact absurd rfl hnull
      | object members => exact absurd rfl (hobj members)
      | _ => exact ⟨.notAnObject, rfl, rfl⟩
  | level hw hl =>
      obtain ⟨d, hd, rfl⟩ := levelComplaint_iff.mp hl
      obtain ⟨members, rfl⟩ := object_of_get? hw
      refine ⟨d, ofJson_object_eq_error_iff.mpr (.inl ?_), rfl⟩
      exact readDefault_eq_error_iff.mpr ⟨_, hw, hd⟩
  | categoriesNotAnObject hlevel hw hobj =>
      obtain ⟨members, rfl⟩ := object_of_get? hw
      refine ⟨.categoriesNotAnObject, ofJson_object_eq_error_iff.mpr (.inr ⟨hlevel, .inl ?_⟩), rfl⟩
      rw [hw]
      exact readCategories_of_not_object hobj
  | @category entries e _ hlevel hw he hc =>
      obtain ⟨members, rfl⟩ := object_of_get? hw
      obtain ⟨d, hd, rfl⟩ := overrideComplaint_iff.mp hc
      refine ⟨d, ofJson_object_eq_error_iff.mpr (.inr ⟨hlevel, .inl ?_⟩), rfl⟩
      rw [hw]
      -- Some entry is refused, and `e` is the only one that can be.
      cases hm : entries.mapM readOverride with
      | ok cs =>
          obtain ⟨m, hm⟩ := Fallible.exists_mapM_eq_ok_iff.mp ⟨cs, hm⟩ e he
          rw [hd] at hm
          cases hm
      | error d' =>
          obtain ⟨before, e', after, hentries, -, he'⟩ := Fallible.mapM_eq_error_iff.mp hm
          have hsame : e = e' :=
            hone entries hw e he e' (by simp [hentries]) (not_isOverride_of_error hd)
              (not_isOverride_of_error he')
          rw [← hsame, hd] at he'
          rw [readCategories, hm, Except.error.inj he']
  | muteNotAnArray hlevel hcats hw harr =>
      obtain ⟨members, rfl⟩ := object_of_get? hw
      refine ⟨.muteNotAnArray,
        ofJson_object_eq_error_iff.mpr (.inr ⟨hlevel, .inr ⟨hcats, ?_⟩⟩), rfl⟩
      rw [hw]
      exact readMute_of_not_array harr
  | muteEntry hlevel hcats hw hbefore hc =>
      obtain ⟨members, rfl⟩ := object_of_get? hw
      obtain ⟨d, hd, rfl⟩ := codeComplaint_iff.mp hc
      refine ⟨d, ofJson_object_eq_error_iff.mpr (.inr ⟨hlevel, .inr ⟨hcats, ?_⟩⟩), rfl⟩
      rw [hw, readMute, Fallible.mapM_eq_error_iff]
      simp only [← readCode_eq_ok_iff] at hbefore
      exact ⟨_, _, _, rfl, hbefore, hd⟩

/-! ## What an accepted document means -/

theorem assemble_eq_applyAll (l : Level) (cs : List (Category × Level)) (codes : List Code) :
    assemble l cs codes =
      (uniform l).applyAll (cs.map (fun m => .category m.1 m.2) ++ codes.map .mute) := by
  rw [applyAll_append, applyAll, applyAll, List.foldl_map, List.foldl_map]
  rfl

theorem assemble_isMuted {l : Level} {cs : List (Category × Level)} {codes : List Code} {c : Code} :
    (assemble l cs codes).isMuted c = true ↔ c ∈ codes := by
  rw [assemble_eq_applyAll, uniform_applyAll_isMuted]
  simp

theorem assemble_override? (l : Level) (cs : List (Category × Level)) (codes : List Code)
    (k : Category) :
    (assemble l cs codes).override? k =
      lastOverride? (cs.map fun m => .category m.1 m.2) k := by
  rw [assemble_eq_applyAll, uniform_applyAll_override?, lastOverride?_append,
    lastOverride?_eq_none_iff.mpr (by simp), Option.none_or]

theorem assemble_override?_mem {l l' : Level} {cs : List (Category × Level)} {codes : List Code}
    {k : Category} (h : (assemble l cs codes).override? k = some l') : (k, l') ∈ cs := by
  rw [assemble_override?] at h
  simpa using lastOverride?_mem h

theorem assemble_override?_eq_none {l : Level} {cs : List (Category × Level)} {codes : List Code}
    {k : Category} (h : (assemble l cs codes).override? k = none) (l' : Level) : (k, l') ∉ cs := by
  rw [assemble_override?, lastOverride?_eq_none_iff] at h
  simpa using h l'

theorem assemble_level (l : Level) (cs : List (Category × Level)) (codes : List Code) :
    (assemble l cs codes).level = l := by
  rw [assemble_eq_applyAll, applyAll_level, uniform]

theorem mem_readCategories_iff {v : Json} {cs : List (Category × Level)}
    (h : readCategories (v.get? "categories") = .ok cs) (k : Category) (l : Level) :
    (k, l) ∈ cs ↔ Gives v k l := by
  rw [Gives]
  cases hv : v.get? "categories" with
  | none =>
      rw [hv] at h
      cases h
      simp
  | some w =>
      rw [hv] at h
      cases w with
      | object entries =>
          rw [Fallible.mem_of_mapM_eq_ok h]
          simp only [Option.some.injEq, Json.object.injEq, exists_eq_left', readOverride_eq_ok_iff]
      | _ => cases h

theorem mem_readMute_iff {v : Json} {codes : List Code}
    (h : readMute (v.get? "mute") = .ok codes) (c : Code) : c ∈ codes ↔ Mutes v c := by
  rw [Mutes]
  cases hv : v.get? "mute" with
  | none =>
      rw [hv] at h
      cases h
      simp
  | some w =>
      rw [hv] at h
      cases w with
      | array items =>
          rw [Fallible.mem_of_mapM_eq_ok h]
          simp only [Option.some.injEq, Json.array.injEq, exists_eq_left', readCode_eq_ok_iff]
      | _ => cases h

theorem isMuted_of_ofJson {v : Json} {p : Policy} (h : ofJson v = .ok p) (c : Code) :
    p.isMuted c = true ↔ Mutes v c := by
  cases v with
  | null =>
      cases h
      simp [standard, uniform, Mutes, Json.get?, Json.members?]
  | object members =>
      obtain ⟨l, cs, codes, -, -, hcodes, rfl⟩ := ofJson_object_eq_ok_iff.mp h
      rw [assemble_isMuted, mem_readMute_iff hcodes]
  | _ => cases h

theorem level_of_ofJson {v : Json} {p : Policy} (h : ofJson v = .ok p) :
    GivesDefault v p.level := by
  cases v with
  | null =>
      cases h
      rfl
  | object members =>
      obtain ⟨l, cs, codes, hl, -, -, rfl⟩ := ofJson_object_eq_ok_iff.mp h
      rw [assemble_level]
      exact readDefault_eq_ok_iff.mp hl
  | _ => cases h

theorem override?_of_ofJson {v : Json} {p : Policy} (h : ofJson v = .ok p) (k : Category) :
    (∀ l, p.override? k = some l → Gives v k l) ∧
      (p.override? k = none → ∀ l, ¬ Gives v k l) := by
  cases v with
  | null =>
      cases h
      simp [standard, uniform, Gives, Json.get?, Json.members?]
  | object members =>
      obtain ⟨l, cs, codes, -, hcs, -, rfl⟩ := ofJson_object_eq_ok_iff.mp h
      constructor
      · intro l' hl'
        exact (mem_readCategories_iff hcs k l').mp (assemble_override?_mem hl')
      · intro hnone l' hl'
        exact assemble_override?_eq_none hnone l' ((mem_readCategories_iff hcs k l').mpr hl')
  | _ => cases h

theorem NamesLevel.unique {v : Json} {l m : Level} (hl : NamesLevel v l) (hm : NamesLevel v m) :
    l = m := by
  obtain ⟨s, rfl, hs⟩ := hl
  obtain ⟨s', heq, hs'⟩ := hm
  cases heq
  exact Option.some.inj (hs.symm.trans hs')

theorem givesDefault_unique {v : Json} {l l' : Level} (h : GivesDefault v l)
    (h' : GivesDefault v l') : l = l' := by
  unfold GivesDefault at h h'
  cases hv : v.get? "level" with
  | none =>
      simp only [hv] at h h'
      exact h.trans h'.symm
  | some w =>
      simp only [hv] at h h'
      exact h.unique h'

theorem givesCode_of_ofJson {v : Json} {p : Policy} (h : ofJson v = .ok p) (c : Code) :
    GivesCode v c ((p.ownLevel? c).getD p.level) := by
  cases hc : c.category with
  | none =>
      have hnone : ∀ k l, c.category = some k → ¬ Gives v k l := by
        intro k l hk
        rw [hc] at hk
        cases hk
      refine .inr ⟨hnone, ?_⟩
      rw [ownLevel?, hc]
      exact level_of_ofJson h
  | some k =>
      rw [ownLevel?, hc, Option.bind_some]
      cases hk : p.override? k with
      | some l => exact .inl ⟨k, hc, (override?_of_ofJson h k).1 l hk⟩
      | none =>
          refine .inr ⟨fun j l hj => ?_, level_of_ofJson h⟩
          rw [hc] at hj
          cases hj
          exact (override?_of_ofJson h k).2 hk l

theorem givesCode_unique {v : Json} (hv : Unambiguous v) {c : Code} {l l' : Level}
    (h : GivesCode v c l) (h' : GivesCode v c l') : l = l' := by
  rcases h with ⟨k, hk, hl⟩ | ⟨hnone, hl⟩ <;> rcases h' with ⟨k', hk', hl'⟩ | ⟨hnone', hl'⟩
  · rw [hk] at hk'
    cases hk'
    exact hv k l l' hl hl'
  · exact absurd hl (hnone' k l hk)
  · exact absurd hl' (hnone k' l' hk')
  · exact givesDefault_unique hl hl'

/-- Reading a policy agrees with the rules: what is accepted, what is said of the rest, and the
level of every code. -/
theorem ofConfig_follows_rules (c : Config) :
    ((∃ p, ofConfig c = .ok p) ↔ IsPolicy c.value) ∧
    (∀ f, ofConfig c = .error f → f.code = .genInvalidParam ∧
      (OneWrongOverride c.value → ∀ t, Complaint c.value t ↔ t = f.text)) ∧
    (∀ p, ofConfig c = .ok p → Unambiguous c.value → ∀ code,
      (p.levelFor code = none ↔ code = .success ∨ Mutes c.value code) ∧
      ∀ l, p.levelFor code = some l ↔
        code ≠ .success ∧ ¬ Mutes c.value code ∧ GivesCode c.value code l) := by
  simp only [ofConfig, Fallible.mapError_eq_ok_iff, Fallible.mapError_eq_error_iff]
  refine ⟨exists_ofJson_eq_ok_iff, ?_, ?_⟩
  · rintro f ⟨d, hd, rfl⟩
    refine ⟨Defect.code_fault d, fun hone t => ⟨fun ht => ?_, ?_⟩⟩
    · obtain ⟨d', hd', rfl⟩ := ofJson_of_complaint hone ht
      rw [hd] at hd'
      rw [Except.error.inj hd']
    · rintro rfl
      exact complaint_of_ofJson hd
  · intro p hp hv code
    rw [levelFor_eq_none_iff, isMuted_of_ofJson hp]
    refine ⟨Iff.rfl, fun l => ?_⟩
    rw [levelFor_eq_some_iff, ne_eq (p.isMuted code), isMuted_of_ofJson hp]
    refine and_congr_right fun _ => and_congr_right fun _ => ⟨?_, ?_⟩
    · rintro rfl
      exact givesCode_of_ofJson hp code
    · exact givesCode_unique hv (givesCode_of_ofJson hp code)

/-- A document that gives file systems a level of their own. -/
theorem ofConfig_reads_override :
    ∃ p, ofConfig ⟨.object [("categories", .object [("fs", .string "error")])]⟩ = .ok p ∧
      p.levelFor .fsIo = some .error ∧ p.levelFor .ipcPipe = some .warn := by
  have gives : ∀ k l,
      Gives (.object [("categories", .object [("fs", .string "error")])]) k l ↔
        k = .filesystem ∧ l = .error := by
    intro k l
    have htoken : Text.folded "fs" = Text.folded k.token ↔ k = .filesystem := by
      cases k <;> decide
    have hlevel : Level.ofText? "error" = some l ↔ l = .error := by
      cases l <;> decide
    constructor
    · rintro ⟨entries, hentries, e, he, hk, s, hs, hl⟩
      cases hentries
      cases List.mem_singleton.mp he
      cases hs
      exact ⟨htoken.mp hk, hlevel.mp hl⟩
    · rintro ⟨rfl, rfl⟩
      exact ⟨_, rfl, _, List.mem_singleton.mpr rfl, htoken.mpr rfl, _, rfl, hlevel.mpr rfl⟩
  obtain ⟨haccepts, -, hmeans⟩ :=
    ofConfig_follows_rules ⟨.object [("categories", .object [("fs", .string "error")])]⟩
  obtain ⟨p, hp⟩ := haccepts.mpr (by
    refine .inr ⟨⟨_, rfl⟩, ?_, ?_, ?_⟩
    · simp [LevelFine, Json.get?, Json.members?, List.lookup_cons]
    · have hfs : IsOverride ("fs", .string "error") :=
        ⟨⟨.filesystem, Category.ofToken?_eq_some_iff.mp (by decide)⟩, .error, "error", rfl,
          by decide⟩
      simp [CategoriesFine, Json.get?, Json.members?, hfs]
    · simp [MuteFine, Json.get?, Json.members?, List.lookup_cons])
  have hone := hmeans p hp (by
    intro k l l' h h'
    rw [((gives k l).mp h).2, ((gives k l').mp h').2])
  have hmutes : ∀ c,
      ¬ Mutes (.object [("categories", .object [("fs", .string "error")])]) c := by
    simp [Mutes, Json.get?, Json.members?, List.lookup_cons]
  refine ⟨p, hp, ?_, ?_⟩
  · refine ((hone .fsIo).2 .error).mpr ⟨by decide, hmutes _, .inl ⟨.filesystem, rfl, ?_⟩⟩
    exact (gives _ _).mpr ⟨rfl, rfl⟩
  · refine ((hone .ipcPipe).2 .warn).mpr ⟨by decide, hmutes _, .inr ⟨?_, rfl⟩⟩
    rintro k l hk h
    rw [((gives k l).mp h).1] at hk
    cases hk

end StatusCodes.Policy
