import StatusCodes.Proofs.Json.Writing
import StatusCodes.Proofs.Policy.Reading
import StatusCodes.Proofs.Tables

/-!
# Documents of a policy

A policy is written down as an object with all three entries: its level, a level for each category
that has one of its own, and the names of the codes that are muted. The order of the entries and of
what is in them is free, as is the case of ASCII letters in categories and levels and everything
that is free in writing a value. Whatever is chosen, reading gives back the policy: nothing of it is lost and
nothing comes in, so that equality of policies, which is finer than giving the same levels, holds
between the policy that was written and the one that is read.
-/

namespace StatusCodes.Policy

/-- The value is the name of a level, in any letter case. -/
def SpellsLevel (v : Json) (l : Level) : Prop :=
  ∃ s, v = .string s ∧ Text.SameName s l.name

/-- The entries are those of the categories that have a level of their own, with that level. The
category is given by its token, in any letter case. -/
structure DescribesCategories (entries : List (String × Json)) (p : Policy) : Prop where
  sound : ∀ e ∈ entries, ∃ k l, Text.SameName e.1 k.token ∧ p.override? k = some l ∧
    SpellsLevel e.2 l
  complete : ∀ k l, p.override? k = some l → ∃ e ∈ entries, Text.SameName e.1 k.token

/-- The items are the names of the codes that are muted. -/
structure DescribesMute (items : List Json) (p : Policy) : Prop where
  sound : ∀ i ∈ items, ∃ c, NamesCode i c ∧ p.isMuted c = true
  complete : ∀ c, p.isMuted c = true → ∃ i ∈ items, NamesCode i c

/-- The value has the three entries of the policy as its members, in some order. -/
def Describes (v : Json) (p : Policy) : Prop :=
  ∃ level entries items members, v = .object members ∧
    members.Perm [("level", level), ("categories", .object entries), ("mute", .array items)] ∧
    SpellsLevel level p.level ∧ DescribesCategories entries p ∧ DescribesMute items p

/-! ## Reading a document of a policy -/

theorem NamesCategory.unique {key : String} {j k : Category} (hj : NamesCategory key j)
    (hk : NamesCategory key k) : j = k :=
  Category.folded_token_injective (hj.symm.trans hk)

theorem NamesCode.unique {v : Json} {c d : Code} (hc : NamesCode v c) (hd : NamesCode v d) :
    c = d := by
  have hname : c.name = d.name := Json.string.inj (hc.symm.trans hd)
  have hfound := Code.ofName?_name c
  rw [hname, Code.ofName?_name] at hfound
  exact (Option.some.inj hfound).symm

theorem namesCategory_iff {key : String} {k : Category} :
    NamesCategory key k ↔ Text.SameName key k.token :=
  Text.folded_eq_iff

theorem SpellsLevel.namesLevel {v : Json} {l : Level} (h : SpellsLevel v l) : NamesLevel v l := by
  obtain ⟨s, rfl, hs⟩ := h
  exact ⟨s, rfl, Level.ofText?_of_folded (Text.folded_eq_iff.mpr hs)⟩

theorem spellsLevel_name (l : Level) : SpellsLevel (.string l.name) l :=
  ⟨l.name, rfl, Text.folded_eq_iff.mp rfl⟩

section

variable {v level : Json} {entries members : List (String × Json)} {items : List Json} {p : Policy}

theorem get?_of_perm
    (h : members.Perm
      [("level", level), ("categories", .object entries), ("mute", .array items)]) :
    (Json.object members).get? "level" = some level ∧
      (Json.object members).get? "categories" = some (.object entries) ∧
      (Json.object members).get? "mute" = some (.array items) := by
  have hkeys : (members.map Prod.fst).Nodup := by
    rw [(h.map Prod.fst).nodup_iff]
    simp
  refine ⟨?_, ?_, ?_⟩ <;> exact Association.lookup_of_mem hkeys (h.mem_iff.mpr (by simp))

theorem gives_iff_of_describes (hv : v.get? "categories" = some (.object entries))
    (h : DescribesCategories entries p) (k : Category) (l : Level) :
    Gives v k l ↔ p.override? k = some l := by
  constructor
  · rintro ⟨entries', hentries', e, he, hk, hl⟩
    rw [hv] at hentries'
    cases hentries'
    obtain ⟨j, m, hj, hoverride, hm⟩ := h.sound e he
    rw [hk.unique (namesCategory_iff.mpr hj), hl.unique hm.namesLevel]
    exact hoverride
  · intro hoverride
    obtain ⟨e, he, hk⟩ := h.complete k l hoverride
    obtain ⟨j, m, hj, hoverride', hm⟩ := h.sound e he
    rw [(namesCategory_iff.mpr hj).unique (namesCategory_iff.mpr hk), hoverride] at hoverride'
    cases hoverride'
    exact ⟨entries, hv, e, he, namesCategory_iff.mpr hk, hm.namesLevel⟩

theorem mutes_iff_of_describes (hv : v.get? "mute" = some (.array items))
    (h : DescribesMute items p) (c : Code) : Mutes v c ↔ p.isMuted c = true := by
  constructor
  · rintro ⟨items', hitems', i, hi, hc⟩
    rw [hv] at hitems'
    cases hitems'
    obtain ⟨d, hd, hmuted⟩ := h.sound i hi
    rw [hc.unique hd]
    exact hmuted
  · intro hmuted
    exact ⟨items, hv, h.complete c hmuted⟩

theorem isPolicy_of_describes (h : Describes v p) : IsPolicy v := by
  obtain ⟨level, entries, items, members, rfl, hperm, hlevel, hcats, hmute⟩ := h
  obtain ⟨hvlevel, hvcats, hvmute⟩ := get?_of_perm hperm
  refine .inr ⟨⟨members, rfl⟩, ?_, ?_, ?_⟩
  · intro w hw
    rw [hvlevel] at hw
    cases hw
    exact ⟨p.level, hlevel.namesLevel⟩
  · intro w hw
    rw [hvcats] at hw
    cases hw
    refine ⟨entries, rfl, fun e he => ?_⟩
    obtain ⟨k, l, hk, -, hl⟩ := hcats.sound e he
    exact ⟨⟨k, namesCategory_iff.mpr hk⟩, l, hl.namesLevel⟩
  · intro w hw
    rw [hvmute] at hw
    cases hw
    refine ⟨items, rfl, fun i hi => ?_⟩
    obtain ⟨c, hc, -⟩ := hmute.sound i hi
    exact ⟨c, hc⟩

/-- A document of a policy is read as that policy. -/
theorem ofJson_of_describes (h : Describes v p) : ofJson v = .ok p := by
  obtain ⟨q, hq⟩ := exists_ofJson_eq_ok_iff.mpr (isPolicy_of_describes h)
  obtain ⟨level, entries, items, members, rfl, hperm, hlevel, hcats, hmute⟩ := h
  obtain ⟨hvlevel, hvcats, hvmute⟩ := get?_of_perm hperm
  have hsame : q = p := by
    rw [ext_iff]
    refine ⟨?_, fun k => ?_, fun c => ?_⟩
    · have hdefault := level_of_ofJson hq
      unfold GivesDefault at hdefault
      rw [hvlevel] at hdefault
      exact hdefault.unique hlevel.namesLevel
    · have hgives := gives_iff_of_describes hvcats hcats k
      cases hk : q.override? k with
      | some l => exact ((hgives l).mp ((override?_of_ofJson hq k).1 l hk)).symm
      | none =>
          cases hp : p.override? k with
          | none => rfl
          | some l => exact absurd ((hgives l).mpr hp) ((override?_of_ofJson hq k).2 hk l)
    · rw [Bool.eq_iff_iff, isMuted_of_ofJson hq, mutes_iff_of_describes hvmute hmute]
  rw [hq, hsame]

end

/-! ## Every policy has a document -/

/-- The entries of the categories that have a level of their own, in table order. -/
def overrideEntries (p : Policy) : List (String × Json) :=
  Category.all.filterMap fun k => (p.override? k).map fun l => (k.token, .string l.name)

/-- A document of the policy. -/
def document (p : Policy) : Json :=
  .object [ ("level", .string p.level.name), ("categories", .object p.overrideEntries),
    ("mute", .array ((Code.all.filter p.isMuted).map fun c => .string c.name)) ]

theorem mem_overrideEntries {p : Policy} {e : String × Json} :
    e ∈ p.overrideEntries ↔ ∃ k l, p.override? k = some l ∧ e = (k.token, .string l.name) := by
  rw [overrideEntries, List.mem_filterMap]
  constructor
  · rintro ⟨k, -, hk⟩
    obtain ⟨l, hl, rfl⟩ := Option.map_eq_some_iff.mp hk
    exact ⟨k, l, hl, rfl⟩
  · rintro ⟨k, l, hl, rfl⟩
    exact ⟨k, Category.mem_all k, Option.map_eq_some_iff.mpr ⟨l, hl, rfl⟩⟩

theorem nodup_overrideEntries (p : Policy) : (p.overrideEntries.map Prod.fst).Nodup := by
  have htokens : Category.all.Pairwise fun j k => j.token ≠ k.token := by decide
  rw [List.Nodup, List.pairwise_map, overrideEntries]
  refine htokens.filterMap _ ?_
  intro j k hjk e he e' he'
  obtain ⟨l, -, rfl⟩ := Option.map_eq_some_iff.mp he
  obtain ⟨l', -, rfl⟩ := Option.map_eq_some_iff.mp he'
  exact hjk

theorem describes_document (p : Policy) : Describes p.document p := by
  refine ⟨_, p.overrideEntries, _, _, rfl, List.Perm.refl _, spellsLevel_name _, ?_, ?_⟩
  · constructor
    · intro e he
      obtain ⟨k, l, hk, rfl⟩ := mem_overrideEntries.mp he
      exact ⟨k, l, namesCategory_iff.mp rfl, hk, spellsLevel_name l⟩
    · intro k l hk
      exact ⟨_, mem_overrideEntries.mpr ⟨k, l, hk, rfl⟩, namesCategory_iff.mp rfl⟩
  · constructor
    · intro i hi
      obtain ⟨c, hc, rfl⟩ := List.mem_map.mp hi
      exact ⟨c, rfl, (List.mem_filter.mp hc).2⟩
    · intro c hc
      exact ⟨_, List.mem_map.mpr ⟨c, List.mem_filter.mpr ⟨Code.mem_all c, hc⟩, rfl⟩, rfl⟩

theorem exists_written_name {s : String}
    (h : (s.toList.all fun c => c ≠ '"' ∧ c ≠ '\\' ∧ 0x20 ≤ c.toNat) = true) :
    ∃ t, Json.Written (.string s) t := by
  refine ⟨_, .text (Json.writesText_self ?_)⟩
  intro c hc
  exact of_decide_eq_true (List.all_eq_true.mp h c hc)

theorem exists_written_level (l : Level) : ∃ t, Json.Written (.string l.name) t :=
  exists_written_name (by cases l <;> decide)

theorem exists_written_token (k : Category) : ∃ t, Json.Written (.string k.token) t :=
  exists_written_name (by cases k <;> decide)

theorem exists_written_code (c : Code) : ∃ t, Json.Written (.string c.name) t :=
  exists_written_name (by cases c <;> decide)

theorem exists_written_document (p : Policy) : ∃ t, Json.Written p.document t := by
  refine Json.exists_written_object (by simp) ?_
  intro m hm
  simp only [List.mem_cons, List.not_mem_nil, or_false] at hm
  rcases hm with rfl | rfl | rfl
  · exact ⟨exists_written_name (s := "level") (by decide), exists_written_level _⟩
  · refine ⟨exists_written_name (s := "categories") (by decide),
      Json.exists_written_object (nodup_overrideEntries p) ?_⟩
    intro e he
    obtain ⟨k, l, -, rfl⟩ := mem_overrideEntries.mp he
    exact ⟨exists_written_token k, exists_written_level l⟩
  · refine ⟨exists_written_name (s := "mute") (by decide), Json.exists_written_array ?_⟩
    intro i hi
    obtain ⟨c, -, rfl⟩ := List.mem_map.mp hi
    exact exists_written_code c

/-- A policy that was built by changes has documents, and every one of its documents is read as
that policy, however it is written. -/
theorem document_round_trip (level : Level) (changes : List Change) :
    (∃ v text, Describes v ((uniform level).applyAll changes) ∧
      Json.Written v (String.toList text)) ∧
    ∀ v text, Describes v ((uniform level).applyAll changes) →
      Json.Written v (String.toList text) →
        ∃ c, Config.parse text = .ok c ∧ ofConfig c = .ok ((uniform level).applyAll changes) := by
  constructor
  · obtain ⟨t, ht⟩ := exists_written_document ((uniform level).applyAll changes)
    refine ⟨_, String.ofList t, describes_document _, ?_⟩
    rw [String.toList_ofList]
    exact ht
  · intro v text hv ht
    refine ⟨⟨v⟩, ?_, ?_⟩
    · rw [Config.parse, Json.parse_written ht]
    · rw [ofConfig, ofJson_of_describes hv]
      rfl

end StatusCodes.Policy
