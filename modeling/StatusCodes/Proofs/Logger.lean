import StatusCodes.Logger
import StatusCodes.Proofs.Config
import StatusCodes.Proofs.Policy.Reading

/-!
# Where the settings of a logger come from

A logger is read from a document, and settings are made after that. Each setting gives one part of
the logger a value and leaves the others as they are. So a part has the value that it was given
last, and where it was given none it is as the document says: the level is the one that the text
under `level` stands for, standard output is on if there is such a text, and the file is the text
under `file`.

This is kept as an invariant of the settings made so far, `Logger.Follows`. Reading the document
establishes it for no settings, and `Logger.Follows.set` carries it over one more.

The only entry for which a document is refused is a text under `level` that stands for no level. A
policy is read from the same entry more strictly, and where it is accepted the logger has its level.
-/

namespace StatusCodes

/-! ## Texts of a document -/

/-- The document is an object with a text under the key. -/
def Json.HasText (v : Json) (key text : String) : Prop :=
  ∃ members, v = .object members ∧ members.lookup key = some (.string text)

theorem Json.HasText.unique {v : Json} {key s t : String} (hs : v.HasText key s)
    (ht : v.HasText key t) : s = t := by
  obtain ⟨members, rfl, hs⟩ := hs
  obtain ⟨_, hsame, ht⟩ := ht
  cases hsame
  rw [hs] at ht
  cases ht
  rfl

theorem Config.string?_eq_some_iff_hasText {c : Config} {key text : String} :
    c.string? key = some text ↔ c.value.HasText key text := by
  rw [string?_eq_some_iff]
  constructor
  · rintro ⟨p, hp, htext⟩
    rw [section?_eq_some_iff, htext] at hp
    exact Json.get?_eq_some_iff.mp hp
  · intro h
    exact ⟨⟨.string text⟩, section?_eq_some_iff.mpr (Json.get?_eq_some_iff.mpr h), rfl⟩

theorem Config.string?_eq_none_iff_hasText {c : Config} {key : String} :
    c.string? key = none ↔ ∀ text, ¬ c.value.HasText key text := by
  rw [Option.eq_none_iff_forall_ne_some]
  exact forall_congr' fun text => not_congr string?_eq_some_iff_hasText

namespace Logger

/-! ## What the settings leave -/

section

variable {α β : Type} {kind : α → Setting} {part : Logger → β} {value : α → β}
  {document : α → Prop} {settings : List Setting} {l : Logger} {s : Setting} {a b : α}

/-- The last of the settings of a kind gives this value. -/
def SetLast (kind : α → Setting) (settings : List Setting) (a : α) : Prop :=
  ∃ before after, settings = before ++ kind a :: after ∧ ∀ b, kind b ∉ after

/-- The value was given last, or none was given and the value is the document's. -/
def Remains (kind : α → Setting) (settings : List Setting) (document : α → Prop) (a : α) : Prop :=
  SetLast kind settings a ∨ (∀ b, kind b ∉ settings) ∧ document a

theorem remains_nil : Remains kind [] document a ↔ document a := by
  simp [Remains, SetLast]

theorem concat_eq_append_cons_iff {before after : List Setting} {t : Setting} :
    settings ++ [s] = before ++ t :: after ↔
      (after = [] ∧ settings = before ∧ s = t) ∨
        ∃ rest, after = rest ++ [s] ∧ settings = before ++ t :: rest := by
  constructor
  · intro h
    rcases List.eq_nil_or_concat after with rfl | ⟨rest, u, rfl⟩
    · exact .inl ⟨rfl, by simpa using h⟩
    · have hlast : settings ++ [s] = (before ++ t :: rest) ++ [u] := by simpa using h
      obtain ⟨hsettings, hs⟩ := List.append_inj' hlast rfl
      cases hs
      exact .inr ⟨rest, List.concat_eq_append, hsettings⟩
  · rintro (⟨rfl, rfl, rfl⟩ | ⟨rest, rfl, rfl⟩)
    · rfl
    · simp

theorem setLast_concat :
    SetLast kind (settings ++ [s]) a ↔
      s = kind a ∨ (∀ b, s ≠ kind b) ∧ SetLast kind settings a := by
  simp only [SetLast, concat_eq_append_cons_iff]
  constructor
  · rintro ⟨before, after, ⟨rfl, rfl, rfl⟩ | ⟨rest, rfl, rfl⟩, hafter⟩
    · exact .inl rfl
    · -- The new setting stands behind the last one of the kind, so it is of another kind.
      refine .inr ⟨fun b hb => hafter b (by simp [hb]), before, rest, rfl, fun b hb => ?_⟩
      exact hafter b (List.mem_append_left _ hb)
  · rintro (rfl | ⟨hs, before, rest, rfl, hrest⟩)
    · exact ⟨settings, [], .inl ⟨rfl, rfl, rfl⟩, by simp⟩
    · refine ⟨before, rest ++ [s], .inr ⟨rest, rfl, rfl⟩, fun b hb => ?_⟩
      rcases List.mem_append.mp hb with hb | hb
      · exact hrest b hb
      · exact hs b (List.mem_singleton.mp hb).symm

theorem remains_concat :
    Remains kind (settings ++ [s]) document a ↔
      s = kind a ∨ (∀ b, s ≠ kind b) ∧ Remains kind settings document a := by
  have hnever : (∀ b, kind b ∉ settings ++ [s]) ↔
      (∀ b, s ≠ kind b) ∧ ∀ b, kind b ∉ settings := by
    rw [← forall_and]
    refine forall_congr' fun b => ?_
    rw [List.mem_append, List.mem_singleton, not_or, and_comm, eq_comm]
  rw [Remains, Remains, setLast_concat, hnever, or_assoc, and_or_left, and_assoc]

/-- Settings of one kind give a part of a logger its value, and no others touch it. -/
structure Decides (kind : α → Setting) (part : Logger → β) (value : α → β) : Prop where
  value_injective : Function.Injective value
  set_self (l : Logger) (a : α) : part (l.set (kind a)) = value a
  set_other (l : Logger) (s : Setting) (hs : ∀ a, s ≠ kind a) : part (l.set s) = part l

theorem Decides.kind_injective (h : Decides kind part value) : Function.Injective kind := by
  intro a b hab
  apply h.value_injective
  rw [← h.set_self standard a, hab, h.set_self]

theorem Decides.set (h : Decides kind part value)
    (hl : ∀ a, part l = value a ↔ Remains kind settings document a) (s : Setting) (a : α) :
    part (l.set s) = value a ↔ Remains kind (settings ++ [s]) document a := by
  by_cases hs : ∃ b, s = kind b
  · obtain ⟨b, rfl⟩ := hs
    have hown : ¬ ∀ c, kind b ≠ kind c := fun hb => hb b rfl
    rw [h.set_self, h.value_injective.eq_iff, remains_concat, h.kind_injective.eq_iff]
    simp [hown]
  · have hother : ∀ b, s ≠ kind b := fun b hb => hs ⟨b, hb⟩
    rw [h.set_other l s hother, hl, remains_concat]
    simp [hother]

end

theorem decides_level : Decides .level level id := by
  refine ⟨Function.injective_id, fun _ _ => rfl, fun l s hs => ?_⟩
  cases s with
  | level k => exact absurd rfl (hs k)
  | _ => rfl

theorem decides_stdout : Decides .stdout stdout id := by
  refine ⟨Function.injective_id, fun _ _ => rfl, fun l s hs => ?_⟩
  cases s with
  | stdout on => exact absurd rfl (hs on)
  | _ => rfl

theorem decides_environment : Decides .environment heedsEnvironment id := by
  refine ⟨Function.injective_id, fun _ _ => rfl, fun l s hs => ?_⟩
  cases s with
  | environment on => exact absurd rfl (hs on)
  | _ => rfl

theorem decides_file : Decides .file file? some := by
  refine ⟨fun _ _ => Option.some.inj, fun _ _ => rfl, fun l s hs => ?_⟩
  cases s with
  | file path => exact absurd rfl (hs path)
  | _ => rfl

variable {v : Json} {c : Config} {l m : Logger} {s : Setting} {settings : List Setting}

/-- The level that a logger has from the document alone. -/
def GivesLevel (v : Json) (k : Level) : Prop :=
  (∃ text, v.HasText "level" text ∧ Level.ofText? text = some k) ∨
    (∀ text, ¬ v.HasText "level" text) ∧ k = .info

/-- Each part of the logger has the value that it was given last, or the document's. -/
structure Follows (v : Json) (settings : List Setting) (l : Logger) : Prop where
  level (k : Level) : l.level = k ↔ Remains .level settings (GivesLevel v) k
  stdout (on : Bool) : l.stdout = on ↔
    Remains .stdout settings (fun on => on = true ↔ ∃ text, v.HasText "level" text) on
  environment (on : Bool) : l.heedsEnvironment = on ↔ Remains .environment settings (· = false) on
  file (path : String) : l.file? = some path ↔ Remains .file settings (v.HasText "file") path

theorem Follows.set (h : Follows v settings l) (s : Setting) :
    Follows v (settings ++ [s]) (l.set s) where
  level := decides_level.set h.level s
  stdout := decides_stdout.set h.stdout s
  environment := decides_environment.set h.environment s
  file := decides_file.set h.file s

theorem Follows.setAll (h : Follows v settings l) (more : List Setting) :
    Follows v (settings ++ more) (l.setAll more) := by
  -- Each setting to come is first moved to those already made.
  induction more generalizing settings l with
  | nil =>
      rw [List.append_nil]
      exact h
  | cons s more ih =>
      rw [List.append_cons]
      exact ih (h.set s)

/-! ## One setting more or less -/

/-- The loggers are the same but for the part that the setting gives a value. -/
def SameBut : Setting → Logger → Logger → Prop
  | .level _, l, m => ∃ k, m = { l with level := k }
  | .stdout _, l, m => ∃ on, m = { l with stdout := on }
  | .environment _, l, m => ∃ on, m = { l with heedsEnvironment := on }
  | .file _, l, m => ∃ path?, m = { l with file? := path? }

theorem sameBut_set (s : Setting) (l : Logger) : SameBut s l (l.set s) := by
  cases s <;> exact ⟨_, rfl⟩

theorem SameBut.set (h : SameBut s l m) (t : Setting) : SameBut s (l.set t) (m.set t) := by
  cases s <;> obtain ⟨_, rfl⟩ := h <;> cases t <;> exact ⟨_, rfl⟩

theorem SameBut.setAll (h : SameBut s l m) (settings : List Setting) :
    SameBut s (l.setAll settings) (m.setAll settings) := by
  induction settings generalizing l m with
  | nil => exact h
  | cons t settings ih => exact ih (h.set t)

theorem sameBut_setAll (l : Logger) (before : List Setting) (s : Setting) (after : List Setting) :
    SameBut s (l.setAll (before ++ after)) (l.setAll (before ++ s :: after)) := by
  rw [setAll, setAll, List.foldl_append, List.foldl_append]
  exact (sameBut_set s _).setAll after

/-! ## Reading the document -/

theorem givesLevel_of_hasText {text : String} (h : v.HasText "level" text) {k : Level} :
    GivesLevel v k ↔ Level.ofText? text = some k := by
  constructor
  · rintro (⟨other, hother, hk⟩ | ⟨hnone, -⟩)
    · rw [h.unique hother]
      exact hk
    · exact absurd h (hnone text)
  · intro hk
    exact .inl ⟨text, h, hk⟩

theorem givesLevel_of_not_hasText (h : ∀ text, ¬ v.HasText "level" text) {k : Level} :
    GivesLevel v k ↔ k = .info := by
  constructor
  · rintro (⟨text, htext, -⟩ | ⟨-, hk⟩)
    · exact absurd htext (h text)
    · exact hk
  · intro hk
    exact .inr ⟨h, hk⟩

theorem ofConfig_of_no_level (h : c.string? "level" = none) :
    ofConfig c = .ok { standard with file? := c.string? "file" } := by
  rw [ofConfig, h]
  cases c.string? "file" <;> rfl

theorem ofConfig_of_level {text : String} (h : c.string? "level" = some text) :
    ofConfig c = (Level.parse text).map fun k =>
      { standard with level := k, stdout := true, file? := c.string? "file" } := by
  rw [ofConfig, h]
  dsimp only
  cases c.string? "file" <;> cases Level.parse text <;> rfl

theorem ofConfig_eq_error_iff {u : Unknown} :
    ofConfig c = .error u ↔
      ∃ text, c.value.HasText "level" text ∧ Level.ofText? text = none ∧ u = .level text := by
  simp only [← Config.string?_eq_some_iff_hasText, ← Level.parse_eq_error_iff]
  cases h : c.string? "level" with
  | none => simp [ofConfig_of_no_level h]
  | some text => simp [ofConfig_of_level h, Fallible.map_eq_error_iff]

theorem exists_ofConfig_eq_ok_iff :
    (∃ l, ofConfig c = .ok l) ↔
      ∀ text, c.value.HasText "level" text → ∃ k, Level.ofText? text = some k := by
  constructor
  · rintro ⟨l, hl⟩ text htext
    refine Option.ne_none_iff_exists'.mp fun hnone => ?_
    have hu := ofConfig_eq_error_iff.mpr ⟨text, htext, hnone, rfl⟩
    rw [hl] at hu
    cases hu
  · intro h
    cases hc : ofConfig c with
    | ok l => exact ⟨l, rfl⟩
    | error u =>
        obtain ⟨text, htext, hnone, -⟩ := ofConfig_eq_error_iff.mp hc
        obtain ⟨k, hk⟩ := h text htext
        rw [hnone] at hk
        cases hk

theorem follows_of_ofConfig (h : ofConfig c = .ok l) : Follows c.value [] l := by
  have hfile : ∀ path, c.string? "file" = some path ↔
      Remains .file [] (c.value.HasText "file") path := by
    intro path
    rw [remains_nil, Config.string?_eq_some_iff_hasText]
  cases hlevel : c.string? "level" with
  | none =>
      rw [ofConfig_of_no_level hlevel] at h
      cases h
      rw [Config.string?_eq_none_iff_hasText] at hlevel
      refine ⟨fun k => ?_, fun on => ?_, fun on => ?_, hfile⟩
      · rw [remains_nil, givesLevel_of_not_hasText hlevel]
        exact eq_comm
      · rw [remains_nil]
        cases on <;> simp [standard, hlevel]
      · rw [remains_nil]
        exact eq_comm
  | some text =>
      rw [ofConfig_of_level hlevel] at h
      obtain ⟨k, hk, rfl⟩ := Fallible.map_eq_ok_iff.mp h
      rw [Level.parse_eq_ok_iff] at hk
      rw [Config.string?_eq_some_iff_hasText] at hlevel
      have hsome : ∃ text, c.value.HasText "level" text := ⟨text, hlevel⟩
      refine ⟨fun k' => ?_, fun on => ?_, fun on => ?_, hfile⟩
      · rw [remains_nil, givesLevel_of_hasText hlevel, hk]
        exact Option.some_inj.symm
      · rw [remains_nil]
        cases on <;> simp [hsome]
      · rw [remains_nil]
        exact eq_comm

/-- A policy that is accepted with a level has it from a text, which the logger reads as well. -/
theorem exists_level_of_policy {p : Policy} (hp : Policy.ofConfig c = .ok p)
    {members : List (String × Json)} (hvalue : c.value = .object members) {w : Json}
    (hw : members.lookup "level" = some w) : ∃ l, ofConfig c = .ok l ∧ l.level = p.level := by
  rw [Policy.ofConfig, Fallible.mapError_eq_ok_iff] at hp
  have hget : c.value.get? "level" = some w := Json.get?_eq_some_iff.mpr ⟨members, hvalue, hw⟩
  have hlevel := Policy.level_of_ofJson hp
  simp only [Policy.GivesDefault, hget] at hlevel
  obtain ⟨text, rfl, hk⟩ := hlevel
  have htext : c.value.HasText "level" text := ⟨members, hvalue, hw⟩
  obtain ⟨l, hl⟩ : ∃ l, ofConfig c = .ok l := by
    refine exists_ofConfig_eq_ok_iff.mpr fun other hother => ?_
    rw [← htext.unique hother]
    exact ⟨p.level, hk⟩
  refine ⟨l, hl, ((follows_of_ofConfig hl).level p.level).mpr ?_⟩
  rw [remains_nil, givesLevel_of_hasText htext]
  exact hk

/-- A document is refused exactly for a text under `level` that stands for no level, as a wrong
parameter. Of any other document and any settings made after it, each part of the logger has the
value that it was given last, or else the document's, and a setting makes a difference to its own
part alone, wherever it is made. Where a policy is accepted that has an entry for its level, the
logger is accepted too and has this level. -/
theorem last_settings_and_document_decide (c : Config) :
    (∀ u, ofConfig c = .error u ↔
      ∃ text, c.value.HasText "level" text ∧ Level.ofText? text = none ∧ u = .level text) ∧
    (∀ u, ofConfig c = .error u → u.fault.code = .genInvalidParam) ∧
    ((∀ text, c.value.HasText "level" text → ∃ k, Level.ofText? text = some k) →
      ∃ l, ofConfig c = .ok l ∧
        (∀ settings, Follows c.value settings (l.setAll settings)) ∧
        ∀ before s after,
          SameBut s (l.setAll (before ++ after)) (l.setAll (before ++ s :: after))) ∧
    ∀ p members w, Policy.ofConfig c = .ok p → c.value = .object members →
      members.lookup "level" = some w → ∃ l, ofConfig c = .ok l ∧ l.level = p.level := by
  refine ⟨fun u => ofConfig_eq_error_iff, fun u _ => rfl, ?_, ?_⟩
  · intro h
    obtain ⟨l, hl⟩ := exists_ofConfig_eq_ok_iff.mpr h
    refine ⟨l, hl, fun settings => ?_, sameBut_setAll l⟩
    exact (follows_of_ofConfig hl).setAll settings
  · intro p members w hp hvalue hw
    exact exists_level_of_policy hp hvalue hw

/-- A level given by its number is read by the logger and the policy alike, and settings made after
the document replace it and standard output, but not the file. -/
theorem settings_replace_numbered_level :
    let members : List (String × Json) := [("level", .string "+04"), ("file", .string "run.log")]
    let settings : List Setting :=
      [.level .trace, .stdout false, .level .error, .environment true]
    ∃ l p, ofConfig ⟨.object members⟩ = .ok l ∧ Policy.ofConfig ⟨.object members⟩ = .ok p ∧
      l.level = p.level ∧ l.setAll settings = ⟨.error, false, true, some "run.log"⟩ := by
  intro members settings
  have htext : (Json.object members).HasText "level" "+04" := ⟨members, rfl, rfl⟩
  obtain ⟨-, -, hread, hpolicy⟩ := last_settings_and_document_decide ⟨.object members⟩
  obtain ⟨l, hl, hfollows, -⟩ := hread fun text h => ⟨.debug, by rw [← htext.unique h]; decide⟩
  obtain ⟨l', hl', hlevel⟩ :=
    hpolicy (.uniform .debug) members (.string "+04") (by rfl) rfl (by rfl)
  rw [hl] at hl'
  cases hl'
  refine ⟨l, .uniform .debug, hl, by rfl, hlevel, ?_⟩
  obtain ⟨hk, hon, henv, hfile⟩ := hfollows settings
  have hk' : (l.setAll settings).level = .error :=
    (hk .error).mpr (.inl ⟨[.level .trace, .stdout false], [.environment true], rfl, by simp⟩)
  have hon' : (l.setAll settings).stdout = false :=
    (hon false).mpr (.inl ⟨[.level .trace], [.level .error, .environment true], rfl, by simp⟩)
  have henv' : (l.setAll settings).heedsEnvironment = true :=
    (henv true).mpr (.inl ⟨[.level .trace, .stdout false, .level .error], [], rfl, by simp⟩)
  have hfile' : (l.setAll settings).file? = some "run.log" :=
    (hfile "run.log").mpr (.inr ⟨by simp [settings], members, rfl, rfl⟩)
  rw [← hk', ← hon', ← henv', ← hfile']

end Logger

end StatusCodes
