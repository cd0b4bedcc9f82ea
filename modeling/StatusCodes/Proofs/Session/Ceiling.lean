import StatusCodes.Proofs.Session.Installation

/-!
# What a process asks first

Before a filter hears of anything, the process asks its ceiling and the interest that it has noted,
and both are settled by every log that is offered, the refused ones included. Nothing is lost by
this. A log that is installed has been consulted ever since, so the ceiling is at least its own, and
the interest is its own or has become less certain, which means that the filters are asked again.
For records that is all: the ceiling stops nothing that a filter would let through.

For spans it is not. A filter that is asked about a span can answer otherwise than it said before,
namely if directives name the span and none of their kind lets the level of spans through. A filter
that is not of this kind is called steady. What the outputs of a log with steady filters show of a
span depends on the log alone, and not on what else was offered.
-/

namespace StatusCodes

/-! ## Interests -/

theorem Interest.eq_of_both_eq {a b x : Interest} (h : both a b = x) (hx : x ≠ .sometimes) :
    a = x ∧ b = x := by
  rw [both] at h
  split at h
  · next hab => exact ⟨h, hab ▸ h⟩
  · exact absurd h.symm hx

theorem Interest.both_eq_or (a b : Interest) : both a b = a ∨ both a b = .sometimes := by
  rw [both]
  split
  · exact .inl rfl
  · exact .inr rfl

/-- Who is certain together is certain alone. -/
theorem Interest.eq_of_together_eq {interests : List Interest} {x : Interest}
    (h : together interests = x) (hx : x ≠ .sometimes) : ∀ a ∈ interests, a = x := by
  have hfold : ∀ (rest : List Interest) (first : Interest), rest.foldl both first = x →
      first = x ∧ ∀ a ∈ rest, a = x := by
    intro rest
    induction rest with
    | nil => exact fun first hfirst => ⟨hfirst, by simp⟩
    | cons b rest ih =>
        intro first hfirst
        obtain ⟨hboth, hrest⟩ := ih (both first b) hfirst
        obtain ⟨hfirst, hb⟩ := eq_of_both_eq hboth hx
        exact ⟨hfirst, List.forall_mem_cons.mpr ⟨hb, hrest⟩⟩
  cases interests with
  | nil => simp
  | cons first rest => exact List.forall_mem_cons.mpr (hfold rest first h)

/-! ## Filters -/

theorem Directive.mem_of_mem_settled {d : Directive} {ds : List Directive}
    (h : d ∈ Directive.settled ds) : d ∈ ds := by
  induction ds with
  | nil => exact h
  | cons e rest ih =>
      rw [Directive.settled] at h
      split at h
      · exact List.mem_cons_of_mem e (ih h)
      · rcases List.mem_cons.mp h with rfl | hrest
        · exact List.mem_cons_self
        · exact List.mem_cons_of_mem e (ih hrest)

/-- The directive that decides is one of those that it decides among. -/
theorem Directive.mem_of_deciding? {d : Directive} {ds : List Directive}
    (h : Directive.deciding? ds = some d) : d ∈ ds := by
  have hfold : ∀ d ∈ Directive.deciding? ds, d ∈ ds := by
    refine List.foldlRecOn (motive := fun best? => ∀ d ∈ best?, d ∈ ds) ds _ nofun ?_
    intro best? hbest e he d hd
    cases best? with
    | none => exact Option.some.inj hd ▸ he
    | some best =>
        simp only [Option.elim_some, Option.mem_some_iff] at hd
        split at hd
        · exact hd ▸ he
        · exact hd ▸ hbest best rfl
  exact hfold d h

namespace Filter

variable {f : Filter} {ds : List Directive} {d : Directive} {l : Level}

theorem isWithin_ceiling?_of_allows (hd : d ∈ ds) (h : d.allows l = true) :
    l.isWithin (directed ds).ceiling? = true := by
  rw [ceiling?]
  split
  · exact decide_eq_true l.le_trace
  · rw [Level.isWithin_finest, List.any_map, List.any_eq_true]
    exact ⟨d, hd, h⟩

theorem isWithin_ceiling?_of_deciding? {p : Directive → Bool}
    (h : (Directive.deciding? (ds.filter p)).any (·.allows l) = true) :
    l.isWithin (directed ds).ceiling? = true := by
  cases hd : Directive.deciding? (ds.filter p) with
  | none =>
      rw [hd] at h
      cases h
  | some d =>
      rw [hd] at h
      have hmem := Directive.mem_of_deciding? hd
      exact isWithin_ceiling?_of_allows (List.mem_filter.mp hmem).1 h

/-- A filter lets through nothing above its ceiling. -/
theorem isWithin_ceiling?_of_admits {r : Record} (h : f.admits r = true) :
    r.level.isWithin f.ceiling? = true := by
  cases f with
  | upTo limit => exact h
  | directed ds => exact isWithin_ceiling?_of_deciding? h

theorem isWithin_ceiling?_of_admitsSpan (h : f.admitsSpan = true) :
    Span.level.isWithin f.ceiling? = true := by
  rw [admitsSpan, Bool.or_eq_true, Bool.and_eq_true] at h
  cases f with
  | upTo limit =>
      rcases h with hlimit | ⟨-, hnone⟩
      · exact hlimit
      · cases hnone
  | directed ds =>
      rcases h with hplain | ⟨-, hscoped⟩
      · exact isWithin_ceiling?_of_deciding? hplain
      · obtain ⟨d, hd, hboth⟩ := List.any_eq_true.mp hscoped
        exact isWithin_ceiling?_of_allows hd (Bool.and_eq_true_iff.mp hboth).2

/-- A span that lifts the log to a level is named by a directive that lets the level through. -/
theorem exists_of_lifts_view {asked : Bool} (h : (f.view asked).lifts l = true) :
    ∃ d ∈ f.directives, d.namesSpan = true ∧ d.allows l = true := by
  rw [view] at h
  split at h
  · cases h
  · rw [Span.View.lifts, Level.isWithin_finest, List.any_map, List.any_eq_true] at h
    obtain ⟨d, hd, hlevel⟩ := h
    obtain ⟨hmem, hnames⟩ := List.mem_filter.mp (Directive.mem_of_mem_settled hd)
    exact ⟨d, hmem, hnames, hlevel⟩

theorem isWithin_ceiling?_of_lifts {asked : Bool} (h : (f.view asked).lifts l = true) :
    l.isWithin f.ceiling? = true := by
  obtain ⟨d, hd, -, hallows⟩ := exists_of_lifts_view h
  cases f with
  | upTo limit => cases hd
  | directed ds => exact isWithin_ceiling?_of_allows hd hallows

/-! ### Steady filters -/

/-- If the filter is asked about a span that its directives name, it lets the span through. -/
def IsSteady (f : Filter) : Prop :=
  f.naming = [] ∨ f.admitsSpan = true

theorem isSteady_upTo (limit : Level) : (upTo limit).IsSteady :=
  .inl rfl

/-- Every filter that lets a span through when it is asked says so beforehand. -/
theorem interest_of_admitsSpan (h : f.admitsSpan = true) : f.interest = .always := by
  refine if_pos ?_
  rw [admitsSpan, Bool.or_eq_true, Bool.and_eq_true] at h
  rw [Bool.or_eq_true]
  exact h.symm.imp_left And.left

/-- A steady filter that says so beforehand also lets the span through when it is asked. -/
theorem IsSteady.admitsSpan_of_interest (h : f.IsSteady) (hinterest : f.interest = .always) :
    f.admitsSpan = true := by
  rcases h with hnaming | hadmits
  · rw [interest, hnaming] at hinterest
    simp only [List.isEmpty_nil, Bool.not_true, Bool.false_or] at hinterest
    split at hinterest
    · next hplain => rw [admitsSpan, hplain, Bool.true_or]
    · split at hinterest <;> cases hinterest
  · exact hadmits

theorem view_of_admitsSpan (h : f.admitsSpan = true) (asked : Bool) :
    f.view asked = f.view true := by
  rw [view, view, h, Bool.not_true, Bool.and_false, Bool.and_false]

theorem view_of_not_admitsSpan (h : f.admitsSpan = false) : f.view true = .hidden := by
  rw [view, h]
  rfl

end Filter

/-! ## Logs -/

namespace Installation

variable {i : Installation} {f : Filter} {k : Sink}

theorem mem_filters (hk : i.filter? k = some f) : f ∈ i.filters :=
  List.mem_filterMap.mpr ⟨k, by cases k <;> simp, hk⟩

theorem isWithin_ceiling? {l : Level} (hk : i.filter? k = some f)
    (h : l.isWithin f.ceiling? = true) : l.isWithin i.ceiling? = true := by
  rw [ceiling?, Level.isWithin_finest, List.any_map, List.any_eq_true]
  exact ⟨f, mem_filters hk, h⟩

theorem interest_of_certain {x : Interest} (h : i.interest = x) (hx : x ≠ .sometimes)
    (hk : i.filter? k = some f) : f.interest = x :=
  Interest.eq_of_together_eq h hx _ (List.mem_map_of_mem (mem_filters hk))

theorem view_take (i : Installation) (asked : Bool) (k : Sink) :
    (i.take asked).view k = i.view asked k := by
  cases k <;> rfl

theorem view_eq (asked : Bool) (hk : i.filter? k = some f) : i.view asked k = f.view asked := by
  simp only [view, hk]

/-- All filters of the log are steady. -/
def IsSteady (i : Installation) : Prop :=
  ∀ k f, i.filter? k = some f → f.IsSteady

end Installation

namespace Session

/-! ## Sessions whose log was consulted -/

/-- What is asked first is no obstacle to the log: the ceiling is not below that of the log, and the
interest that has been noted is that of the log, or says that the log is to be asked. Each span
around the session was taken by the log if it was taken at all. Without a log nothing is asked. -/
structure Consulted (s : Session) : Prop where
  ceiling : ∀ i, s.installed? = some i → ∀ l : Level,
    l.isWithin i.ceiling? = true → l.isWithin s.ceiling? = true
  interest : ∀ i, s.installed? = some i → ∀ x, s.interest? = some x →
    x = i.interest ∨ x = .sometimes
  spans : ∀ standing ∈ s.spans, standing = .absent ∨
    ∃ i asked, s.installed? = some i ∧ standing = i.take asked
  unasked : s.installed? = none → s.ceiling? = none ∧ s.interest? = none

theorem consulted_start (environment : String) (disk : Disk Entry) :
    Consulted (start environment disk) where
  ceiling _ hi := nomatch hi
  interest _ hi := nomatch hi
  spans _ hmem := nomatch hmem
  unasked _ := ⟨rfl, rfl⟩

section

variable {s : Session} {i : Installation}

theorem standing_cases (s : Session) :
    s.standing = .absent ∨ ∃ i asked, s.installed? = some i ∧ s.standing = i.take asked := by
  cases hi : s.installed? with
  | none => simp [standing, hi]
  | some i =>
      cases hx : s.spanInterest? with
      | none => simp [standing, hi, hx]
      | some x =>
          cases x with
          | never => simp [standing, hi, hx]
          | sometimes => exact .inr ⟨i, true, rfl, by simp only [standing, hi, hx]⟩
          | always => exact .inr ⟨i, false, rfl, by simp only [standing, hi, hx]⟩

/-- The interest that a span meets was noted or is that of the log. -/
theorem Consulted.spanInterest (h : s.Consulted) (hi : s.installed? = some i) {x : Interest}
    (hx : s.spanInterest? = some x) : x = i.interest ∨ x = .sometimes := by
  rw [spanInterest?, hi, Option.map_some] at hx
  have hor := (Option.ite_none_right_eq_some.mp hx).2
  rcases Option.or_eq_some_iff.mp hor with hnoted | ⟨-, hlog⟩
  · exact h.interest i hi x hnoted
  · exact .inl (Option.some.inj hlog).symm

theorem Consulted.spanInterest?_eq_none (h : s.Consulted) (hs : s.installed? = none) :
    s.spanInterest? = none := by
  rw [spanInterest?, (h.unasked hs).1]
  rfl

theorem Consulted.setUp (h : s.Consulted) (l : Logger) : Consulted (s.setUp l).2 := by
  rcases s.setUp_cases l with hsame | ⟨i, disk, -, hset⟩
  · rw [hsame]
    exact h
  · rw [hset]
    refine ⟨?_, ?_, ?_, nofun⟩
    · intro j hj level hlevel
      have hconsulted : j ∈ s.installed?.toList ++ [i] := by
        obtain rfl : s.installed?.getD i = j := Option.some.inj hj
        cases s.installed? with
        | none => exact List.mem_singleton_self i
        | some j => exact List.mem_cons_self
      change level.isWithin (Level.finest ((s.installed?.toList ++ [i]).map _)) = true
      rw [Level.isWithin_finest, List.any_map, List.any_eq_true]
      exact ⟨j, hconsulted, hlevel⟩
    · intro j hj x hx
      change s.interest?.map _ = some x at hx
      obtain ⟨y, hy, rfl⟩ := Option.map_eq_some_iff.mp hx
      cases hs : s.installed? with
      | none =>
          rw [(h.unasked hs).2] at hy
          cases hy
      | some j' =>
          simp only [hs, Option.getD_some, Option.some.injEq] at hj
          subst hj
          -- What two logs have together is what the first has, or is uncertain.
          exact Interest.both_eq_or j'.interest i.interest
    · intro standing hmem
      refine (h.spans standing hmem).imp_right ?_
      rintro ⟨j, asked, hj, rfl⟩
      exact ⟨j, asked, by simp only [hj, Option.getD_some], rfl⟩

theorem Consulted.step (h : s.Consulted) (x : Step) : Consulted (s.step x).2 := by
  rcases s.step_cases x with ⟨index, l, -, -, hs⟩ | ⟨r, -, hs⟩ |
    ⟨-, policy, loggers, interest?, spans, hs, hinterest, hspans⟩
  · rw [hs]
    exact h.setUp l
  · obtain ⟨stdout, disk, hr⟩ := s.write_eq r
    rw [hs, hr]
    exact ⟨h.ceiling, h.interest, h.spans, h.unasked⟩
  · rw [hs]
    refine ⟨h.ceiling, ?_, ?_, ?_⟩
    · intro i hi y hy
      rcases hinterest with rfl | rfl
      · exact h.interest i hi y hy
      · rcases Option.or_eq_some_iff.mp hy with hmet | ⟨-, hnoted⟩
        · exact h.spanInterest hi hmet
        · exact h.interest i hi y hnoted
    · intro standing hmem
      rcases hspans standing hmem with rfl | hold
      · exact s.standing_cases
      · exact h.spans standing hold
    · intro hnone
      refine ⟨(h.unasked hnone).1, ?_⟩
      rcases hinterest with rfl | rfl
      · exact (h.unasked hnone).2
      · change s.spanInterest?.or s.interest? = none
        rw [h.spanInterest?_eq_none hnone]
        exact (h.unasked hnone).2

theorem Consulted.run (h : s.Consulted) (steps : List Step) : Consulted (s.run steps).2 := by
  induction steps generalizing s with
  | nil => exact h
  | cons x rest ih =>
      rw [run_cons]
      exact ih (h.step x)

theorem consulted_reached (environment : String) (disk : Disk Entry) (steps : List Step) :
    (reached environment disk steps).Consulted :=
  (consulted_start environment disk).run steps

/-! ## Records -/

/-- An output that is lifted is lifted by what its filter made of a span. -/
theorem Consulted.exists_filter_of_isLifted (h : s.Consulted) (hi : s.installed? = some i)
    {k : Sink} {level : Level} (hlifted : s.isLifted k level = true) :
    ∃ f asked, i.filter? k = some f ∧ (f.view asked).lifts level = true := by
  obtain ⟨standing, hmem, hlifts⟩ := List.any_eq_true.mp hlifted
  rcases h.spans standing hmem with rfl | ⟨j, asked, hj, rfl⟩
  · cases hlifts
  · rw [hi] at hj
    cases hj
    rw [Installation.view_take] at hlifts
    cases hk : i.filter? k with
    | none =>
        rw [Installation.view, hk] at hlifts
        cases hlifts
    | some f =>
        rw [Installation.view_eq asked hk] at hlifts
        exact ⟨f, asked, rfl, hlifts⟩

/-- The ceiling keeps no record from an output: the filter decides. -/
theorem Consulted.takes_eq (h : s.Consulted) (hi : s.installed? = some i) (r : Record)
    {k : Sink} {f : Filter} (hk : i.filter? k = some f) :
    s.takes i r k = (f.admits r || s.isLifted k r.level) := by
  have hwithin : (f.admits r || s.isLifted k r.level) = true →
      r.level.isWithin s.ceiling? = true := by
    intro hdecides
    refine h.ceiling i hi _ (Installation.isWithin_ceiling? hk ?_)
    rcases Bool.or_eq_true_iff.mp hdecides with hadmits | hlifted
    · exact Filter.isWithin_ceiling?_of_admits hadmits
    · obtain ⟨g, asked, hg, hlifts⟩ := h.exists_filter_of_isLifted hi hlifted
      rw [hk] at hg
      cases hg
      exact Filter.isWithin_ceiling?_of_lifts hlifts
  rw [takes, hk, Option.any_some]
  cases hdecides : f.admits r || s.isLifted k r.level with
  | false => rw [Bool.and_false]
  | true => rw [hwithin hdecides, Bool.and_true]

/-- Outputs with the same filter see the same of all spans. -/
theorem Consulted.view_eq (h : s.Consulted) (hi : s.installed? = some i) {j k : Sink}
    {f : Filter} (hj : i.filter? j = some f) (hk : i.filter? k = some f) {standing : Span.Standing}
    (hmem : standing ∈ s.spans) : standing.view j = standing.view k := by
  rcases h.spans standing hmem with rfl | ⟨i', asked, hi', rfl⟩
  · rfl
  · rw [hi] at hi'
    cases hi'
    rw [Installation.view_take, Installation.view_take, Installation.view_eq asked hj,
      Installation.view_eq asked hk]

theorem Consulted.shownSpans_eq (h : s.Consulted) (hi : s.installed? = some i) {j k : Sink}
    {f : Filter} (hj : i.filter? j = some f) (hk : i.filter? k = some f) :
    s.shownSpans j = s.shownSpans k :=
  List.countP_congr fun standing hmem => by rw [h.view_eq hi hj hk hmem]

/-! ## Spans -/

/-- A log with a filter that lets a span through when it is asked takes the span. -/
theorem Consulted.exists_take (h : s.Consulted) (hi : s.installed? = some i) {k : Sink} {f : Filter}
    (hk : i.filter? k = some f) (hadmits : f.admitsSpan = true) :
    ∃ asked, s.standing = i.take asked := by
  have hwithin : Span.level.isWithin s.ceiling? = true :=
    h.ceiling i hi _ (Installation.isWithin_ceiling? hk
      (Filter.isWithin_ceiling?_of_admitsSpan hadmits))
  obtain ⟨x, hx⟩ : ∃ x, s.spanInterest? = some x := by
    rw [spanInterest?, if_pos hwithin, hi, Option.map_some]
    cases s.interest? with
    | none => exact ⟨_, rfl⟩
    | some x => exact ⟨x, rfl⟩
  cases x with
  | never =>
      -- The filter is certain of the span, so the log cannot have no interest.
      rcases h.spanInterest hi hx with hlog | huncertain
      · have hnever := Installation.interest_of_certain hlog.symm (by decide) hk
        rw [Filter.interest_of_admitsSpan hadmits] at hnever
        cases hnever
      · cases huncertain
  | sometimes => exact ⟨true, by simp only [standing, hi, hx]⟩
  | always => exact ⟨false, by simp only [standing, hi, hx]⟩

/-- An output with a steady filter that does not let a span through when it is asked hides it. -/
theorem Consulted.view_standing_of_not_admitsSpan (h : s.Consulted) (hi : s.installed? = some i)
    {k : Sink} {f : Filter} (hk : i.filter? k = some f) (hsteady : f.IsSteady)
    (hadmits : f.admitsSpan = false) : s.standing.view k = .hidden := by
  cases hx : s.spanInterest? with
  | none => simp only [standing, hi, hx, Span.Standing.view]
  | some x =>
      cases x with
      | never => simp only [standing, hi, hx, Span.Standing.view]
      | sometimes =>
          simp only [standing, hi, hx]
          rw [Installation.view_take, Installation.view_eq true hk,
            Filter.view_of_not_admitsSpan hadmits]
      | always =>
          -- A steady filter that is certain of the span would let it through.
          have halways : f.interest = .always := by
            rcases h.spanInterest hi hx with hlog | huncertain
            · exact Installation.interest_of_certain hlog.symm (by decide) hk
            · cases huncertain
          rw [hsteady.admitsSpan_of_interest halways] at hadmits
          cases hadmits

/-- What an output makes of a span that is entered now, if its filter is steady: what the filter says
of the span when it is asked. -/
theorem Consulted.view_standing (h : s.Consulted) (hi : s.installed? = some i)
    (hsteady : i.IsSteady) (k : Sink) : s.standing.view k = i.view true k := by
  cases hk : i.filter? k with
  | none =>
      have hhidden : ∀ asked, i.view asked k = .hidden := fun asked => by
        simp only [Installation.view, hk]
      rcases s.standing_cases with habsent | ⟨j, asked, hj, htake⟩
      · rw [habsent, hhidden]
        rfl
      · rw [hi] at hj
        cases hj
        rw [htake, Installation.view_take, hhidden, hhidden]
  | some f =>
      rw [Installation.view_eq true hk]
      cases hadmits : f.admitsSpan with
      | true =>
          obtain ⟨asked, htake⟩ := h.exists_take hi hk hadmits
          rw [htake, Installation.view_take, Installation.view_eq asked hk,
            Filter.view_of_admitsSpan hadmits]
      | false =>
          rw [Filter.view_of_not_admitsSpan hadmits]
          exact h.view_standing_of_not_admitsSpan hi hk (hsteady k f hk) hadmits

end

end Session

end StatusCodes
