import StatusCodes.Proofs.Session.Ceiling

/-!
# What the outputs of a log receive

Before a log is installed a session is silent: nothing has come out of it. From the step on that
installs the log, each of its outputs receives one entry after the other, and the invariant is that
both have received the same entries, whose records are those that the steps have made and that the
level of the logger lets through. Everything else about the session, its policy, its loggers and its
spans, only matters for which records come next. Logs that are offered in between are consulted, but
for records this makes no difference, since the ceiling is never below that of the log.

This is for logs with a level alone, since directives of the environment decide in other ways and
inside spans in others again. And it is for sessions that do not open the file of the log a second
time, which would empty it.
-/

namespace StatusCodes.Session

/-- The records that a reader sees who takes levels up to a limit. -/
def visible (limit : Level) (records : List Record) : List Record :=
  records.filter fun r => r.level ≤ limit

/-- Whether a step sets up a logger whose file is the file of the log. -/
def reopens (s : Session) : Step → Bool
  | .setUp index =>
      match s.loggers[index]?.bind Logger.file? with
      | some path =>
          match s.disk.create path with
          | .ok (place, _) => s.installed?.any fun i => i.place? = some place
          | .error _ => false
      | none => false
  | _ => false

/-- Whether none of the steps does so. -/
def neverReopens (s : Session) : List Step → Bool
  | [] => true
  | x :: rest => !s.reopens x && (s.step x).2.neverReopens rest

theorem neverReopens_append (s : Session) (a b : List Step) :
    s.neverReopens (a ++ b) = (s.neverReopens a && (s.run a).2.neverReopens b) := by
  induction a generalizing s with
  | nil => rfl
  | cons x a ih =>
      rw [List.cons_append, neverReopens, neverReopens, ih, run_cons, Bool.and_assoc]

theorem place?_ne_of_not_reopens {s : Session} {index : Nat} {l : Logger} {i : Installation}
    {path : String} {place : Disk.Path} {disk : Disk Entry}
    (h : s.reopens (.setUp index) = false) (hl : s.loggers[index]? = some l)
    (hi : s.installed? = some i) (hpath : l.file? = some path)
    (hcreate : s.disk.create path = .ok (place, disk)) : i.place? ≠ some place := by
  simp only [reopens, hl, Option.bind_some, hpath, hcreate, hi, Option.any_some] at h
  exact of_decide_eq_false h

theorem visible_append (limit : Level) (rs ss : List Record) :
    visible limit (rs ++ ss) = visible limit rs ++ visible limit ss := by
  rw [visible, List.filter_append]
  rfl

/-- What an output receives of records made at this moment, when levels are taken up to a limit. -/
def entriesOf (s : Session) (k : Sink) (limit : Level) (records : List Record) : List Entry :=
  (visible limit records).map (s.entry k)

/-- What an output receives of steps. -/
def entriesOfSteps (s : Session) (k : Sink) (limit : Level) : List Step → List Entry
  | [] => []
  | x :: rest =>
      s.entriesOf k limit (x.records s.policy) ++ (s.step x).2.entriesOfSteps k limit rest

theorem record_entriesOfSteps (s : Session) (k : Sink) (limit : Level) (steps : List Step) :
    (s.entriesOfSteps k limit steps).map Entry.record = visible limit (made s.policy steps) := by
  induction steps generalizing s with
  | nil => rfl
  | cons x rest ih =>
      rw [entriesOfSteps, List.map_append, ih, step_policy, made, visible_append, entriesOf,
        List.map_map]
      exact congrArg (· ++ _) (List.map_id _)

/-! ## Before the log is installed -/

/-- No log is installed, and nothing has been printed. -/
structure Silent (s : Session) : Prop where
  installed : s.installed? = none
  stdout : s.stdout = []

theorem silent_start (environment : String) (disk : Disk Entry) :
    Silent (start environment disk) :=
  ⟨rfl, rfl⟩

theorem silent_step {s : Session} (h : s.Silent) {x : Step}
    (hx : (s.step x).2.installed? = none) : Silent (s.step x).2 := by
  refine ⟨hx, ?_⟩
  rcases s.step_cases x with ⟨index, l, -, -, hs⟩ | ⟨r, -, hs⟩ |
    ⟨-, policy, loggers, interest?, spans, hs, -⟩
  · obtain ⟨installed?, ceiling?, interest?, disk, hl⟩ := s.setUp_eq l
    rw [hs, hl]
    exact h.stdout
  · rw [hs, write_of_not_installed h.installed r]
    exact h.stdout
  · rw [hs]
    exact h.stdout

theorem silent_run {s : Session} (h : s.Silent) {steps : List Step}
    (hsteps : (s.run steps).2.installed? = none) : Silent (s.run steps).2 := by
  induction steps generalizing s with
  | nil => exact h
  | cons x rest ih =>
      rw [run_cons] at hsteps ⊢
      refine ih (silent_step h ?_) hsteps
      -- A log that the step installed would still be there at the end.
      cases hx : (s.step x).2.installed? with
      | none => rfl
      | some i => exact absurd hsteps (by rw [run_installed hx rest]; simp)

/-! ## Logs with a level alone -/

/-- Every output of the log has this limit and no directives. -/
def HasLimit (i : Installation) (limit : Level) : Prop :=
  ∀ k f, i.filter? k = some f → f = .upTo limit

theorem filter_of_plain {l : Logger} {environment : String}
    (h : l.heedsEnvironment = false ∨ Directive.ofEnvironment environment = []) :
    l.filter environment = .upTo l.level := by
  rw [Logger.filter]
  rcases h with hoff | hempty
  · rw [if_neg (by simp [hoff])]
  · rw [Filter.ofEnvironment, hempty]
    exact ite_self _

theorem Serves.hasLimit {i : Installation} {l : Logger} {environment : String}
    (h : Serves i l environment)
    (hplain : l.heedsEnvironment = false ∨ Directive.ofEnvironment environment = []) :
    HasLimit i l.level :=
  fun _ _ hk => (h.filter?_eq hk).trans (filter_of_plain hplain)

/-- The logger that has installed the log has a level and no directives. -/
def LevelAlone (environment : String) (disk : Disk Entry) (steps : List Step) : Prop :=
  ∀ l i, InstalledBy environment disk steps l i →
    l.heedsEnvironment = false ∨ Directive.ofEnvironment environment = []

theorem InstalledBy.hasLimit {environment : String} {disk : Disk Entry} {steps : List Step}
    {l : Logger} {i : Installation} (h : InstalledBy environment disk steps l i)
    (halone : LevelAlone environment disk steps) : HasLimit i l.level :=
  h.serves.hasLimit (halone l i h)

theorem HasLimit.isSteady {i : Installation} {limit : Level} (h : HasLimit i limit) :
    i.IsSteady := by
  intro k f hk
  rw [h k f hk]
  exact Filter.isSteady_upTo limit

theorem HasLimit.filter?_eq {i : Installation} {limit : Level} (h : HasLimit i limit) {k : Sink}
    (hk : (i.filter? k).isSome) : i.filter? k = some (.upTo limit) := by
  obtain ⟨f, hf⟩ := Option.isSome_iff_exists.mp hk
  rw [hf, h k f hf]

section

variable {s u : Session} {i : Installation} {entries : List Entry} {limit : Level} {k : Sink}

theorem Consulted.not_isLifted (h : u.Consulted) (hi : u.installed? = some i)
    (hlimit : HasLimit i limit) (k : Sink) (level : Level) : u.isLifted k level = false := by
  rw [Bool.eq_false_iff]
  intro hlifted
  obtain ⟨f, asked, hk, hlifts⟩ := h.exists_filter_of_isLifted hi hlifted
  obtain ⟨d, hd, -⟩ := Filter.exists_of_lifts_view hlifts
  rw [hlimit k f hk] at hd
  cases hd

/-- A log with a level alone takes a record on all of its outputs or on none. -/
theorem Consulted.write_eq_ite (h : u.Consulted) (hi : u.installed? = some i)
    (hlimit : HasLimit i limit) (r : Record) :
    u.write r = if r.level ≤ limit then u.deliver i (fun _ => true) r else u := by
  have htakes : ∀ k, (i.filter? k).isSome → u.takes i r k = decide (r.level ≤ limit) := by
    intro k hk
    rw [h.takes_eq hi r (hlimit.filter?_eq hk), Filter.admits_upTo,
      h.not_isLifted hi hlimit, Bool.or_false]
  rw [write_of_installed hi, deliver_congr htakes]
  split
  · next hr => simp only [decide_eq_true hr]
  · next hr => exact deliver_of_not_takes fun _ => decide_eq_false hr

theorem Consulted.entry_eq (h : u.Consulted) (hi : u.installed? = some i)
    (hlimit : HasLimit i limit) {j : Sink} (hj : (i.filter? j).isSome) (hk : (i.filter? k).isSome)
    (r : Record) : u.entry j r = u.entry k r := by
  rw [entry, entry, h.shownSpans_eq hi (hlimit.filter?_eq hj) (hlimit.filter?_eq hk)]

/-! ## From the installation on -/

/-- A log is installed whose outputs have received some entries since an earlier state. -/
structure Received (s u : Session) (i : Installation) (entries : List Entry) : Prop where
  installed : u.installed? = some i
  consulted : u.Consulted
  stdout : u.stdout = s.stdout ++ if i.stdout?.isSome then entries else []
  file : ∀ place, i.place? = some place →
    u.disk.node? place = (s.disk.node? place).map (·.receive entries)

theorem received_nothing (hi : u.installed? = some i) (h : u.Consulted) : Received u u i [] := by
  refine ⟨hi, h, ?_, ?_⟩
  · rw [ite_self, List.append_nil]
  · intro place hplace
    rw [funext Disk.Node.receive_nil]
    exact Option.map_id'.symm

theorem Received.deliver (h : Received s u i entries) (hlimit : HasLimit i limit)
    (hk : (i.filter? k).isSome) (r : Record) :
    Received s (u.deliver i (fun _ => true) r) i (entries ++ [u.entry k r]) := by
  obtain ⟨hi, hconsulted, hstdout, hfile⟩ := h
  have hconsulted' := hconsulted
  obtain ⟨hceiling, hinterest, hspans, hunasked⟩ := hconsulted'
  refine ⟨hi, ⟨hceiling, hinterest, hspans, hunasked⟩, ?_, ?_⟩
  · rw [Session.deliver, hstdout]
    cases hprints : i.stdout?.isSome with
    | false => simp
    | true =>
        have hsame := hconsulted.entry_eq hi hlimit (j := .stdout) hprints hk r
        simp [hsame]
  · intro place hplace
    have hheld : (i.filter? .file).isSome := by
      rw [i.isSome_filter?_file, hplace, Option.isSome_some]
    rw [deliver_disk_of_some hplace, if_pos rfl, Disk.node?_append, hfile place hplace,
      Option.map_map, hconsulted.entry_eq hi hlimit hheld hk r]
    congr 1
    funext n
    exact (Disk.Node.receive_append n entries [u.entry k r]).symm

/-- Making a record adds an entry with it to the outputs if the limit lets it through. -/
theorem Received.write (h : Received s u i entries) (hlimit : HasLimit i limit)
    (hk : (i.filter? k).isSome) (r : Record) :
    Received s (u.write r) i (entries ++ u.entriesOf k limit [r]) := by
  rw [h.consulted.write_eq_ite h.installed hlimit, entriesOf]
  by_cases hr : r.level ≤ limit
  · have hvisible : visible limit [r] = [r] := by simp [visible, hr]
    rw [if_pos hr, hvisible]
    exact h.deliver hlimit hk r
  · have hvisible : visible limit [r] = [] := by simp [visible, hr]
    rw [if_neg hr, hvisible, List.map_nil, List.append_nil]
    exact h

/-- Setting up another logger touches neither output, unless it opens the file of the log. -/
theorem Received.setUp (h : Received s u i entries) {l : Logger}
    (hfile : ∀ path place disk, l.file? = some path → u.disk.create path = .ok (place, disk) →
      i.place? ≠ some place) : Received s (u.setUp l).2 i entries := by
  have hconsulted := h.consulted.setUp l
  rcases u.setUp_cases l with hsame | ⟨j, disk, hopens, hset⟩
  · rw [hsame]
    exact h
  · rw [hset, h.installed, Option.getD_some] at hconsulted ⊢
    refine ⟨rfl, hconsulted, h.stdout, ?_⟩
    intro place hplace
    have hother : j.place? ≠ some place := by
      intro hj
      obtain ⟨path, hpath, hcreate⟩ := hopens.exists_of_place? hj
      exact hfile path place disk hpath hcreate hplace
    exact (hopens.node?_other hother).trans (h.file place hplace)

/-- Every step adds the entries that come of its records. -/
theorem Received.step (h : Received s u i entries) (hlimit : HasLimit i limit)
    (hk : (i.filter? k).isSome) {x : Step} (hx : u.reopens x = false) :
    Received s (u.step x).2 i (entries ++ u.entriesOf k limit (x.records u.policy)) := by
  have hconsulted := h.consulted.step x
  rcases u.step_cases x with ⟨index, l, rfl, hl, hs⟩ | ⟨r, hrecords, hs⟩ |
    ⟨hrecords, policy, loggers, interest?, spans, hs, -⟩
  · change Received s _ i (entries ++ [])
    rw [hs, List.append_nil]
    refine h.setUp ?_
    intro path place disk hpath hcreate hplace
    exact place?_ne_of_not_reopens hx hl h.installed hpath hcreate hplace
  · rw [hs, hrecords]
    exact h.write hlimit hk r
  · rw [hs] at hconsulted
    rw [hs, hrecords]
    change Received s _ i (entries ++ [])
    rw [List.append_nil]
    exact ⟨h.installed, hconsulted, h.stdout, h.file⟩

/-- A run adds the entries that come of its steps. -/
theorem Received.run (h : Received s u i entries) (hlimit : HasLimit i limit)
    (hk : (i.filter? k).isSome) {steps : List Step} (hsteps : u.neverReopens steps = true) :
    Received s (u.run steps).2 i (entries ++ u.entriesOfSteps k limit steps) := by
  induction steps generalizing u entries with
  | nil =>
      rw [entriesOfSteps, List.append_nil]
      exact h
  | cons x rest ih =>
      rw [neverReopens, Bool.and_eq_true, Bool.not_eq_true'] at hsteps
      obtain ⟨hx, hrest⟩ := hsteps
      rw [run_cons, entriesOfSteps, ← List.append_assoc]
      exact ih (h.step hlimit hk hx) hrest

end

/-! ## From the beginning on -/

theorem opens_of_installs {s : Session} {index : Nat} {l : Logger}
    (hl : s.loggers[index]? = some l) (h : s.installs (.setUp index) = true) :
    s.installed? = none ∧ ∃ i disk, s.Opens l i disk := by
  have hcount := s.step_installs (.setUp index)
  have hmost := Bool.toNat_le (s.step (.setUp index)).2.installed?.isSome
  rw [h, Bool.toNat_true] at hcount
  have hnone : s.installed?.isSome.toNat = 0 := by omega
  refine ⟨by simpa using hnone, ?_⟩
  simp only [installs, hl, Bool.and_eq_true] at h
  rcases s.output_cases l with hout | ⟨path, e, hfile, hcreate⟩ | hopens
  · rw [hout] at h
    cases h.1
  · rw [setUp_of_create_eq_error hfile hcreate] at h
    cases h.2
  · exact hopens

/-- An installed log has an output. -/
theorem Opens.exists_output {s : Session} {l : Logger} {i : Installation} {disk : Disk Entry}
    (h : s.Opens l i disk) : ∃ k, (i.filter? k).isSome := by
  cases h with
  | stdout => exact ⟨.stdout, rfl⟩
  | file => exact ⟨.file, rfl⟩

/-- Once a logger has installed the log, with a level and no directives, each output of the logger
holds one entry for every record that was made since and that the level lets through, in the order
in which they were made, and nothing else. A device that was named as the file keeps nothing. No
other place holds anything that it did not hold at the beginning. -/
theorem outputs_show_visible_records (environment : String) (disk : Disk Entry)
    (before after : List Step) (index : Nat) {l : Logger}
    (hlogger : (reached environment disk before).loggers[index]? = some l)
    (hinstalls : (reached environment disk before).installs (.setUp index) = true)
    (hplain : l.heedsEnvironment = false ∨ Directive.ofEnvironment environment = [])
    (hfile : (reached environment disk (before ++ [.setUp index])).neverReopens after = true) :
    let s := reached environment disk before
    let u := reached environment disk (before ++ .setUp index :: after)
    ∃ entries, entries.map Entry.record =
        visible l.level (made (before.foldl Step.policyAfter .standard) after) ∧
      u.stdout = (if l.stdout then entries else []) ∧
      (∀ path, l.file? = some path → ∃ place created, s.disk.create path = .ok (place, created) ∧
        (u.disk.node? place = some (.file entries) ∨
          s.disk.node? place = some .device ∧ u.disk.node? place = some .device)) ∧
      ∀ q, (∀ path place created, l.file? = some path →
          s.disk.create path = .ok (place, created) → q ≠ place) →
        u.disk.node? q = disk.node? q ∨ u.disk.node? q = some (.file []) := by
  intro s u
  obtain ⟨hnone, i, opened, hopens⟩ := opens_of_installs hlogger hinstalls
  have hserves := hopens.serves
  rw [reached_environment] at hserves
  have hlimit := hserves.hasLimit hplain
  obtain ⟨k, hk⟩ := hopens.exists_output
  have hsilent : s.Silent := silent_run (silent_start environment disk) hnone
  let t : Session := { s.consult i with disk := opened, installed? := some i }
  have hstep : (s.step (.setUp index)).2 = t := step_of_opens hnone hlogger hopens
  have hconsulted : t.Consulted := by
    rw [← hstep]
    exact (consulted_reached environment disk before).step _
  have hu : u = (t.run after).2 := by
    rw [← hstep]
    exact reached_append environment disk before (.setUp index) after
  rw [reached_append] at hfile
  change neverReopens (s.step (.setUp index)).2 after = true at hfile
  rw [hstep] at hfile
  have hreceived := (received_nothing rfl hconsulted).run hlimit hk hfile
  rw [← hu, List.nil_append] at hreceived
  refine ⟨t.entriesOfSteps k l.level after, ?_, ?_, ?_, ?_⟩
  · rw [record_entriesOfSteps, ← reached_policy environment disk before]
    rfl
  · rw [hreceived.stdout, hserves.isSome_stdout?]
    change s.stdout ++ _ = _
    rw [hsilent.stdout, List.nil_append]
  · intro path hpath
    obtain ⟨place, hplace, hcreate⟩ := hopens.create_of_file? hpath
    refine ⟨place, opened, hcreate, ?_⟩
    rw [hreceived.file place hplace]
    change (opened.node? place).map _ = _ ∨ _ ∧ (opened.node? place).map _ = _
    rcases Disk.node?_create hcreate with hempty | ⟨hbefore, hdevice⟩
    · rw [hempty]
      exact .inl rfl
    · rw [hdevice]
      exact .inr ⟨hbefore, rfl⟩
  · intro q hq
    refine run_node? (s := start environment disk) _ ?_
    intro j hj hjq
    cases hreceived.installed.symm.trans hj
    obtain ⟨path, hpath, hcreate⟩ := hopens.exists_of_place? hjq
    exact hq path q opened hpath hcreate rfl

/-- A report and a note are seen on both outputs, though another log was tried in between. What
was noted too early is not, nor what is too fine. -/
theorem outputs_show_report_and_note :
    let disk : Disk Entry := .withDirectory ["tmp", "d"]
    let script : List Step := [.note .error "early",
      .build (.ok ⟨.info, true, false, some "/tmp/a"⟩),
      .build (.ok ⟨.trace, true, false, some "/tmp/b"⟩), .setUp 0, .enterSpan,
      .call (.report .fsIo "boot"), .setUp 1, .note .debug "fine", .note .info "late"]
    ∃ entries, entries.map Entry.record =
        [.failure .warn .fsIo Code.fsIo.description "boot", .note .info "late"] ∧
      (reached "" disk script).stdout = entries ∧
      (reached "" disk script).disk.node? ["tmp", "a"] = some (.file entries) := by
  obtain ⟨entries, hrecords, hstdout, hfile, -⟩ :=
    outputs_show_visible_records "" (.withDirectory ["tmp", "d"])
      [.note .error "early", .build (.ok ⟨.info, true, false, some "/tmp/a"⟩),
        .build (.ok ⟨.trace, true, false, some "/tmp/b"⟩)]
      [.enterSpan, .call (.report .fsIo "boot"), .setUp 1, .note .debug "fine", .note .info "late"]
      0 rfl (by decide) (.inl rfl) (by decide)
  refine ⟨entries, hrecords.trans (by decide), hstdout, ?_⟩
  obtain ⟨place, created, hcreate, hnode⟩ := hfile "/tmp/a" rfl
  have hplace : ((Disk.withDirectory ["tmp", "d"] : Disk Entry).create "/tmp/a").toOption.map
      Prod.fst = some ["tmp", "a"] := by decide
  change (Disk.withDirectory ["tmp", "d"] : Disk Entry).create "/tmp/a" = _ at hcreate
  rw [hcreate] at hplace
  cases hplace
  rcases hnode with hheld | ⟨hdevice, -⟩
  · exact hheld
  · exact absurd hdevice (by decide)

end StatusCodes.Session
