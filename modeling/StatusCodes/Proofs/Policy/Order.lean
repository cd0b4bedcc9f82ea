import StatusCodes.Proofs.Association
import StatusCodes.Proofs.Policy.Reading

/-!
# The order in which a document of a policy is visited

The members of an object have no order of their own, and whoever goes through them meets them in an
order that may be another one next time. Reading a policy goes through the entries of `categories`,
and stops at the first that is wrong, so in general the order decides what is complained of and
which of two levels for one category is left. It decides nothing as long as at most one entry is
wrong and no category is given two levels: the entries are then read as a set.

The array of `mute` has an order, which decides what is complained of first. Where all of its
entries are names of codes it is read as a set too.
-/

namespace StatusCodes

/-! ## Objects visited anew -/

/-- The same value, but every object in it may be visited in another order. An object that is
visited has each key once. -/
inductive Json.Revisited : Json → Json → Prop
  | same (v : Json) : Revisited v v
  | array {vs ws} : List.Forall₂ Revisited vs ws → Revisited (.array vs) (.array ws)
  | object {ms visited ns : List (String × Json)} : (ms.map Prod.fst).Nodup → ms.Perm visited →
      List.Forall₂ (Association.SameKey Revisited) visited ns → Revisited (.object ms) (.object ns)

namespace Json

variable {v w : Json}

theorem Revisited.get? (h : Revisited v w) (key : String) :
    Option.Rel Revisited (v.get? key) (w.get? key) := by
  cases h with
  | same =>
      cases v.get? key with
      | none => exact .none
      | some u => exact .some (.same u)
  | array => exact .none
  | @object ms visited ns hkeys hperm hvisited =>
      have hlookup := Association.rel_lookup hvisited key
      rw [← Association.lookup_perm hkeys hperm] at hlookup
      exact hlookup

end Json

namespace Policy

open Json (Revisited)

/-! ## Single entries -/

section

variable {v w : Json}

theorem readLevel_revisited (h : Revisited v w) : readLevel w = readLevel v := by
  cases h <;> rfl

theorem readCode_revisited (h : Revisited v w) : readCode w = readCode v := by
  cases h <;> rfl

theorem map_readCode_revisited {vs ws : List Json} (h : List.Forall₂ Revisited vs ws) :
    ws.map readCode = vs.map readCode := by
  induction h with
  | nil => rfl
  | cons hv _ ih => rw [List.map_cons, List.map_cons, ih, readCode_revisited hv]

theorem map_readOverride_revisited {ms ns : List (String × Json)}
    (h : List.Forall₂ (Association.SameKey Revisited) ms ns) :
    ns.map readOverride = ms.map readOverride := by
  induction h with
  | nil => rfl
  | cons hm _ ih =>
      obtain ⟨key, hv⟩ := hm
      rw [List.map_cons, List.map_cons, ih, readOverride, readOverride, readLevel_revisited hv]

end

/-! ## The three members -/

section

variable {v? w? : Option Json}

theorem readDefault_revisited (h : Option.Rel Revisited v? w?) :
    readDefault w? = readDefault v? := by
  cases h with
  | none => rfl
  | some hlevel => exact readLevel_revisited hlevel

theorem readMute_revisited (h : Option.Rel Revisited v? w?) : readMute w? = readMute v? := by
  cases h with
  | none => rfl
  | some hmute =>
      cases hmute with
      | same => rfl
      | array hitems => exact Fallible.mapM_congr (map_readCode_revisited hitems)
      | object => rfl

/-- The same entries are read, in some order. -/
theorem readCategories_revisited (h : Option.Rel Revisited v? w?)
    (halike : ∀ entries, v? = some (.object entries) → ∀ e ∈ entries, ∀ e' ∈ entries, ∀ d d',
      readOverride e = .error d → readOverride e' = .error d' → d = d') :
    Fallible.SameMembers (readCategories v?) (readCategories w?) := by
  cases h with
  | none => exact .refl _
  | some hcategories =>
      cases hcategories with
      | same => exact .refl _
      | array => exact .refl _
      | @object ms visited ns hkeys hperm hvisited =>
          rw [readCategories, readCategories,
            Fallible.mapM_congr (map_readOverride_revisited hvisited)]
          exact Fallible.mapM_sameMembers (fun _ => hperm.mem_iff) (halike ms rfl)

theorem readMute_sameMembers {items items' : List Json} (hsame : ∀ i, i ∈ items ↔ i ∈ items')
    (hnames : ∀ i ∈ items, ∃ c, NamesCode i c) :
    Fallible.SameMembers (readMute (some (.array items))) (readMute (some (.array items'))) := by
  refine Fallible.mapM_sameMembers hsame ?_
  intro i hi _ _ d _ hd _
  obtain ⟨c, hc⟩ := hnames i hi
  rw [readCode_eq_ok_iff.mpr hc] at hd
  cases hd

end

/-! ## The whole document -/

section

variable {level : Level} {cs cs' : List (Category × Level)} {codes codes' : List Code}

theorem assemble_override?_eq_some_iff (hone : ∀ k l l', (k, l) ∈ cs → (k, l') ∈ cs → l = l')
    (k : Category) (l : Level) :
    (assemble level cs codes).override? k = some l ↔ (k, l) ∈ cs := by
  refine ⟨assemble_override?_mem, fun hmem => ?_⟩
  cases hk : (assemble level cs codes).override? k with
  | none => exact absurd hmem (assemble_override?_eq_none hk l)
  | some l' => rw [hone k l l' hmem (assemble_override?_mem hk)]

/-- If no category has two levels, the entries are as good as a set. -/
theorem assemble_categories (hone : ∀ k l l', (k, l) ∈ cs → (k, l') ∈ cs → l = l')
    (hsame : ∀ e, e ∈ cs ↔ e ∈ cs') : assemble level cs codes = assemble level cs' codes := by
  have hone' : ∀ k l l', (k, l) ∈ cs' → (k, l') ∈ cs' → l = l' := by
    simp only [← hsame]
    exact hone
  rw [ext_iff]
  refine ⟨?_, fun k => ?_, fun c => ?_⟩
  · rw [assemble_level, assemble_level]
  · ext l
    rw [assemble_override?_eq_some_iff hone, assemble_override?_eq_some_iff hone', hsame]
  · rw [Bool.eq_iff_iff, assemble_isMuted, assemble_isMuted]

theorem assemble_mute (hsame : ∀ c, c ∈ codes ↔ c ∈ codes') :
    assemble level cs codes = assemble level cs codes' := by
  rw [ext_iff]
  refine ⟨?_, fun k => ?_, fun c => ?_⟩
  · rw [assemble_level, assemble_level]
  · rw [assemble_override?, assemble_override?]
  · rw [Bool.eq_iff_iff, assemble_isMuted, assemble_isMuted, hsame]

end

section

variable {v w : Json}

/-- An object is read member by member. -/
theorem ofJson_of_object (h : ∃ members, v = .object members) :
    ofJson v = do
      let level ← readDefault (v.get? "level")
      let categories ← readCategories (v.get? "categories")
      let mute ← readMute (v.get? "mute")
      return assemble level categories mute := by
  obtain ⟨members, rfl⟩ := h
  rfl

theorem readOverride_alike (hone : OneWrongOverride v) {entries : List (String × Json)}
    (hv : v.get? "categories" = some (.object entries)) :
    ∀ e ∈ entries, ∀ e' ∈ entries, ∀ d d',
      readOverride e = .error d → readOverride e' = .error d' → d = d' := by
  intro e he e' he' d d' hd hd'
  have hsame : e = e' :=
    hone entries hv e he e' he' (not_isOverride_of_error hd) (not_isOverride_of_error hd')
  rw [← hsame, hd] at hd'
  exact Except.error.inj hd'

theorem ofJson_revisited (h : Revisited v w) (hone : OneWrongOverride v) (hv : Unambiguous v) :
    ofJson w = ofJson v := by
  cases id h with
  | same => rfl
  | array => rfl
  | @object ms visited ns =>
      have hcategories :=
        readCategories_revisited (h.get? "categories") fun _ => readOverride_alike hone
      rw [ofJson_of_object ⟨ns, rfl⟩, ofJson_of_object ⟨ms, rfl⟩,
        readDefault_revisited (h.get? "level"), readMute_revisited (h.get? "mute")]
      congr 1
      funext level
      refine (hcategories.bind_eq ?_).symm
      intro cs cs' hcs _ hsame
      have hgiven : ∀ k l l', (k, l) ∈ cs → (k, l') ∈ cs → l = l' := by
        intro k l l' hl hl'
        rw [mem_readCategories_iff hcs] at hl hl'
        exact hv k l l' hl hl'
      simp only [assemble_categories hgiven hsame]

theorem ofJson_muted_alike {items items' : List Json}
    (hitems : v.get? "mute" = some (.array items)) (hitems' : w.get? "mute" = some (.array items'))
    (hothers : ∀ key, key ≠ "mute" → w.get? key = v.get? key)
    (hnames : ∀ i ∈ items, ∃ c, NamesCode i c) (hsame : ∀ i, i ∈ items ↔ i ∈ items') :
    ofJson w = ofJson v := by
  rw [ofJson_of_object (object_of_get? hitems'), ofJson_of_object (object_of_get? hitems),
    hothers "level" (by decide), hothers "categories" (by decide), hitems, hitems']
  congr 1
  funext level
  congr 1
  funext cs
  refine ((readMute_sameMembers hsame hnames).bind_eq ?_).symm
  intro codes codes' _ _ hcodes
  rw [assemble_mute hcodes]

end

/-- Reading a policy does not depend on the order in which objects are visited: if at most one entry
of `categories` is wrong and no category is given two levels, the outcome is the same policy or the
same fault. Nor does it depend on the order of the entries of `mute` or on how often each of them is
written, if all are names of codes. -/
theorem ofConfig_ignores_order :
    (∀ v w, Revisited v w → OneWrongOverride v → Unambiguous v → ofConfig ⟨w⟩ = ofConfig ⟨v⟩) ∧
    ∀ v w items items',
      v.get? "mute" = some (.array items) → w.get? "mute" = some (.array items') →
      (∀ key, key ≠ "mute" → w.get? key = v.get? key) →
      (∀ i ∈ items, ∃ c, NamesCode i c) → (∀ i, i ∈ items ↔ i ∈ items') →
        ofConfig ⟨w⟩ = ofConfig ⟨v⟩ := by
  constructor
  · intro v w h hone hv
    rw [ofConfig, ofConfig, ofJson_revisited h hone hv]
  · intro v w items items' hitems hitems' hothers hnames hsame
    rw [ofConfig, ofConfig, ofJson_muted_alike hitems hitems' hothers hnames hsame]

/-- A category that is spelled in two ways has the same level whichever is met first, and a code
can be muted again. -/
theorem ofConfig_ignores_order_of_spellings :
    let categories := [("fs", Json.string "error"), ("FS", .string "1")]
    let mute := [Json.string "ERR_FS_IO", .string "ERR_IPC_AGAIN"]
    let v := Json.object [("categories", .object categories), ("mute", .array mute)]
    let w := Json.object [("mute", .array mute), ("categories", .object categories.reverse)]
    let u := Json.object [("categories", .object categories),
      ("mute", .array (.string "ERR_IPC_AGAIN" :: mute))]
    (∃ p, ofConfig ⟨v⟩ = .ok p) ∧ ofConfig ⟨w⟩ = ofConfig ⟨v⟩ ∧ ofConfig ⟨u⟩ = ofConfig ⟨v⟩ := by
  intro categories mute v w u
  have hrevisited : Revisited v w := by
    refine .object (by decide) (.swap _ _ _) (.cons (.intro _ (.same _)) (.cons (.intro _ ?_) .nil))
    exact .object (by decide) (.swap _ _ _)
      (.cons (.intro _ (.same _)) (.cons (.intro _ (.same _)) .nil))
  have hread : readCategories (v.get? "categories") =
      .ok [(.filesystem, .error), (.filesystem, .error)] := rfl
  have hone : OneWrongOverride v := by
    intro entries hentries e he _ _ hwrong _
    obtain ⟨m, hm⟩ : ∃ m, readOverride e = .ok m := by
      rw [hentries] at hread
      exact Fallible.exists_mapM_eq_ok_iff.mp ⟨_, hread⟩ e he
    exact absurd (isOverride_iff.mpr ⟨m, hm⟩) hwrong
  have hunambiguous : Unambiguous v := by
    intro k l l' hl hl'
    rw [← mem_readCategories_iff hread] at hl hl'
    simp only [List.mem_cons, Prod.mk.injEq, List.not_mem_nil, or_false, or_self] at hl hl'
    rw [hl.2, hl'.2]
  have hnames : ∀ i ∈ mute, ∃ c, NamesCode i c :=
    List.forall_mem_cons.mpr ⟨⟨.fsIo, rfl⟩, List.forall_mem_singleton.mpr ⟨.ipcAgain, rfl⟩⟩
  refine ⟨⟨_, rfl⟩, ofConfig_ignores_order.1 v w hrevisited hone hunambiguous, ?_⟩
  refine ofConfig_ignores_order.2 v u mute _ rfl rfl ?_ hnames ?_
  · intro key hkey
    simp [u, v, Json.get?, Json.members?, List.lookup_cons, beq_false_of_ne hkey]
  · intro i
    simp +contextual [mute]

/-- Of two levels for one category the one that is met last is left. -/
example :
    let v := Json.object [("categories", .object [("fs", .string "error"), ("FS", .string "warn")])]
    let w := Json.object [("categories", .object [("FS", .string "warn"), ("fs", .string "error")])]
    ((ofJson v).toOption.bind (·.levelFor .fsIo)) = some .warn ∧
      ((ofJson w).toOption.bind (·.levelFor .fsIo)) = some .error := by
  decide

end Policy

end StatusCodes
