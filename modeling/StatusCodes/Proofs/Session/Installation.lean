import StatusCodes.Proofs.Session.Steps

/-!
# The log is installed once

Whether a log is installed is decided by one step of a session, the first that sets up a logger
whose outputs can be opened, and nothing that happens later has a say in it. Attempts to set up
another one leave their mark all the same: a logger opens its file before it is refused, and the
file is then empty. So the invariant is about two things, the log, which stays as it is once it is
there, and the disk, where a place that does not belong to the log holds what it held at the
beginning or an empty file.
-/

namespace StatusCodes.Session

variable {s : Session} {i : Installation}

/-- Whether a step sets up a logger that has an output, and succeeds. -/
def installs (s : Session) : Step → Bool
  | .setUp index =>
      match s.loggers[index]? with
      | some l => l.hasOutput && (s.setUp l).1.isOk
      | none => false
  | _ => false

/-- How many of the steps do so. -/
def installations (s : Session) : List Step → Nat
  | [] => 0
  | x :: rest => (s.installs x).toNat + (s.step x).2.installations rest

/-- The outputs of a logger can be opened: if it has a file, the file can be created. -/
def CanOpen (s : Session) (l : Logger) : Prop :=
  ∀ path, l.file? = some path → ∃ created, s.disk.create path = .ok created

/-- Somewhere in the steps the log was set up by a logger, when none was installed. -/
def InstalledBy (environment : String) (disk : Disk Entry) (steps : List Step) (l : Logger)
    (i : Installation) : Prop :=
  ∃ before index after opened, steps = before ++ .setUp index :: after ∧
    (reached environment disk before).installed? = none ∧
      (reached environment disk before).loggers[index]? = some l ∧
        (reached environment disk before).Opens l i opened

/-! ## What a step does to the log -/

/-- The log stays as it is, or is installed by a logger if there was none. -/
theorem step_installed? (s : Session) (x : Step) :
    (s.step x).2.installed? = s.installed? ∨
      ∃ index l i disk, x = .setUp index ∧ s.loggers[index]? = some l ∧ s.Opens l i disk ∧
        (s.step x).2.installed? = some (s.installed?.getD i) := by
  rcases s.step_cases x with ⟨index, l, hx, hl, h⟩ | ⟨r, -, h⟩ |
    ⟨-, policy, loggers, interest?, spans, h, -⟩
  · rcases s.setUp_cases l with hsame | ⟨i, disk, hopens, hset⟩
    · exact .inl (by rw [h, hsame])
    · exact .inr ⟨index, l, i, disk, hx, hl, hopens, by rw [h, hset]⟩
  · obtain ⟨stdout, disk, hr⟩ := s.write_eq r
    exact .inl (by rw [h, hr])
  · exact .inl (by rw [h])

theorem step_installed?_of_ne {x : Step} (hx : ∀ index, x ≠ .setUp index) :
    (s.step x).2.installed? = s.installed? := by
  rcases s.step_installed? x with h | ⟨index, l, i, disk, hset, -⟩
  · exact h
  · exact absurd hset (hx index)

theorem step_installed (h : s.installed? = some i) (x : Step) :
    (s.step x).2.installed? = some i := by
  rcases s.step_installed? x with hsame | ⟨index, l, j, disk, -, -, -, hset⟩
  · rw [hsame, h]
  · rw [hset, h, Option.getD_some]

theorem run_installed (h : s.installed? = some i) (steps : List Step) :
    (s.run steps).2.installed? = some i := by
  induction steps generalizing s with
  | nil => exact h
  | cons x rest ih =>
      rw [run_cons]
      exact ih (step_installed h x)

/-- A step that sets up a logger with an output succeeds exactly when it installs the log. -/
theorem step_installs (s : Session) (x : Step) :
    s.installed?.isSome.toNat + (s.installs x).toNat =
      (s.step x).2.installed?.isSome.toNat := by
  cases x with
  | setUp index =>
      cases hl : s.loggers[index]? with
      | none => simp only [installs, step, hl, Bool.toNat_false, Nat.add_zero]
      | some l =>
          simp only [installs, step, hl]
          rcases s.output_cases l with h | ⟨path, e, hfile, hcreate⟩ | ⟨i, disk, h⟩
          · rw [setUp_of_not_hasOutput h, h]
            rfl
          · rw [setUp_of_create_eq_error hfile hcreate, Except.isOk, Except.toBool, Bool.and_false]
            rfl
          · cases hs : s.installed? with
            | none =>
                rw [setUp_of_opens_none h hs, h.hasOutput]
                rfl
            | some j =>
                rw [setUp_of_opens_some h hs, h.hasOutput, ← hs]
                rfl
  | _ =>
      -- No other step installs a log, and `installs` is false of all of them.
      rw [step_installed?_of_ne (by intro index h; cases h)]
      rfl

theorem run_installations (s : Session) (steps : List Step) :
    s.installed?.isSome.toNat + s.installations steps =
      (s.run steps).2.installed?.isSome.toNat := by
  induction steps generalizing s with
  | nil => rfl
  | cons x rest ih =>
      have hx := s.step_installs x
      have hrest := ih (s.step x).2
      rw [run_cons, installations]
      change _ = ((s.step x).2.run rest).2.installed?.isSome.toNat
      omega

theorem exists_installing_step (hs : s.installed? = none) {steps : List Step}
    (h : (s.run steps).2.installed? = some i) :
    ∃ before index after l disk, steps = before ++ .setUp index :: after ∧
      (s.run before).2.installed? = none ∧ (s.run before).2.loggers[index]? = some l ∧
        (s.run before).2.Opens l i disk := by
  induction steps generalizing s with
  | nil =>
      rw [run_nil, hs] at h
      cases h
  | cons x rest ih =>
      rw [run_cons] at h
      rcases s.step_installed? x with hsame | ⟨index, l, j, disk, rfl, hl, hopens, hset⟩
      · obtain ⟨before, index, after, l, disk, rfl, hnone, hl, hopens⟩ := ih (hsame.trans hs) h
        refine ⟨x :: before, index, after, l, disk, rfl, ?_⟩
        rw [run_cons]
        exact ⟨hnone, hl, hopens⟩
      · rw [hs, Option.getD_none] at hset
        have hij : j = i := Option.some.inj ((run_installed hset rest).symm.trans h)
        exact ⟨[], index, rest, l, disk, rfl, hs, hl, hij ▸ hopens⟩

theorem installedBy_of_reached {environment : String} {disk : Disk Entry} {steps : List Step}
    (h : (reached environment disk steps).installed? = some i) :
    ∃ l, InstalledBy environment disk steps l i := by
  obtain ⟨before, index, after, l, opened, hsteps, hnone, hl, hopens⟩ :=
    exists_installing_step (s := start environment disk) rfl h
  exact ⟨l, before, index, after, opened, hsteps, hnone, hl, hopens⟩

theorem InstalledBy.append {environment : String} {disk : Disk Entry} {steps : List Step}
    {l : Logger} (h : InstalledBy environment disk steps l i) (more : List Step) :
    InstalledBy environment disk (steps ++ more) l i := by
  obtain ⟨before, index, after, opened, rfl, h⟩ := h
  refine ⟨before, index, after ++ more, opened, ?_, h⟩
  rw [List.append_assoc, List.cons_append]

/-- A log that was installed is there. -/
theorem InstalledBy.installed {environment : String} {disk : Disk Entry} {steps : List Step}
    {l : Logger} (h : InstalledBy environment disk steps l i) :
    (reached environment disk steps).installed? = some i := by
  obtain ⟨before, index, after, opened, rfl, hnone, hl, hopens⟩ := h
  rw [reached_append]
  exact run_installed (by rw [step_of_opens hnone hl hopens]) after

theorem InstalledBy.serves {environment : String} {disk : Disk Entry} {steps : List Step}
    {l : Logger} (h : InstalledBy environment disk steps l i) : Serves i l environment := by
  obtain ⟨before, index, after, opened, -, -, -, hopens⟩ := h
  have hserves := hopens.serves
  rw [reached_environment] at hserves
  exact hserves

/-! ## Places that do not belong to the log -/

theorem deliver_node?_other (takes : Sink → Bool) (r : Record) {q : Disk.Path}
    (hq : i.place? ≠ some q) : (s.deliver i takes r).disk.node? q = s.disk.node? q := by
  cases hplace : i.place? with
  | none => rw [deliver_disk_of_none hplace]
  | some place =>
      rw [deliver_disk_of_some hplace]
      split
      · refine Disk.node?_append_other _ ?_
        rintro rfl
        exact hq hplace
      · rfl

theorem write_node?_other (r : Record) {q : Disk.Path}
    (hq : ∀ i, s.installed? = some i → i.place? ≠ some q) :
    (s.write r).disk.node? q = s.disk.node? q := by
  rw [write]
  split
  · rfl
  · next i hi => exact deliver_node?_other _ r (hq i hi)

theorem step_node? (x : Step) {q : Disk.Path}
    (hq : ∀ i, s.installed? = some i → i.place? ≠ some q) :
    (s.step x).2.disk.node? q = s.disk.node? q ∨
      (s.step x).2.disk.node? q = some (.file []) := by
  rcases s.step_cases x with ⟨index, l, -, -, h⟩ | ⟨r, -, h⟩ |
    ⟨-, policy, loggers, interest?, spans, h, -⟩
  · rcases s.setUp_cases l with hsame | ⟨i, disk, hopens, hset⟩
    · exact .inl (by rw [h, hsame])
    · rw [h, hset]
      exact hopens.node?_or q
  · rw [h]
    exact .inl (write_node?_other r hq)
  · exact .inl (by rw [h])

theorem run_node? (steps : List Step) {q : Disk.Path}
    (hq : ∀ i, (s.run steps).2.installed? = some i → i.place? ≠ some q) :
    (s.run steps).2.disk.node? q = s.disk.node? q ∨
      (s.run steps).2.disk.node? q = some (.file []) := by
  induction steps generalizing s with
  | nil => exact .inl rfl
  | cons x rest ih =>
      have hbefore : ∀ i, s.installed? = some i → i.place? ≠ some q := by
        intro i hi
        exact hq i (run_installed hi (x :: rest))
      rw [run_cons] at hq ⊢
      rcases ih hq with hrest | hempty
      · rcases step_node? x hbefore with hx | hx
        · exact .inl (hrest.trans hx)
        · exact .inr (hrest.trans hx)
      · exact .inr hempty

/-! ## Setting up in any state -/

theorem opens_of_canOpen {l : Logger} (hout : l.hasOutput = true) (h : s.CanOpen l) :
    ∃ i disk, s.Opens l i disk := by
  rcases s.output_cases l with hnone | ⟨path, e, hfile, hcreate⟩ | hopens
  · rw [hnone] at hout
    cases hout
  · obtain ⟨created, hok⟩ := h path hfile
    rw [hcreate] at hok
    cases hok
  · exact hopens

theorem setUp_eq_ok_iff {l : Logger} (hout : l.hasOutput = true) (h : s.CanOpen l) :
    (s.setUp l).1 = .ok () ↔ s.installed? = none := by
  obtain ⟨i, disk, hopens⟩ := opens_of_canOpen hout h
  cases hs : s.installed? with
  | none => simp only [setUp_of_opens_none hopens hs]
  | some j => simp only [setUp_of_opens_some hopens hs, reduceCtorEq]

theorem setUp_eq_error {l : Logger} (hout : l.hasOutput = true) (h : s.CanOpen l)
    (hs : s.installed? ≠ none) : ∃ f, (s.setUp l).1 = .error f ∧ f.code = .sysInvalidOp := by
  obtain ⟨i, disk, hopens⟩ := opens_of_canOpen hout h
  obtain ⟨j, hj⟩ := Option.ne_none_iff_exists'.mp hs
  rw [setUp_of_opens_some hopens hj]
  exact ⟨alreadyInstalled, rfl, rfl⟩

/-- In every state that a session can come to, at most one step has installed the log. A logger
without outputs is set up without any effect. One whose outputs can be opened is set up exactly if
no log is installed yet, and is told otherwise that this is not the time for it. A log that is
installed is the one of the logger that was set up first, with its outputs and its filter for each
of them, and stays so whatever comes next, and every place that is not its file is as it was in the
beginning or holds an empty file. -/
theorem log_installed_once (environment : String) (disk : Disk Entry) (steps : List Step) :
    let s := reached environment disk steps
    ((start environment disk).installations steps ≤ 1 ∧
      ((start environment disk).installations steps = 1 ↔ s.installed?.isSome)) ∧
    (∀ l : Logger, l.hasOutput = false → s.setUp l = (.ok (), s)) ∧
    (∀ l : Logger, l.hasOutput = true → s.CanOpen l →
      ((s.setUp l).1 = .ok () ↔ s.installed? = none) ∧
      (s.installed? ≠ none → ∃ f, (s.setUp l).1 = .error f ∧ f.code = .sysInvalidOp)) ∧
    (∀ i, s.installed? = some i →
      (∃ l, InstalledBy environment disk steps l i ∧ Serves i l environment) ∧
      ∀ more, (s.run more).2.installed? = some i) ∧
    ∀ q, (∀ i, s.installed? = some i → i.place? ≠ some q) →
      s.disk.node? q = disk.node? q ∨ s.disk.node? q = some (.file []) := by
  intro s
  refine ⟨?_, ?_, ?_, ?_, ?_⟩
  · have hcount : 0 + (start environment disk).installations steps = s.installed?.isSome.toNat :=
      run_installations (start environment disk) steps
    rw [Nat.zero_add] at hcount
    rw [hcount]
    cases s.installed?.isSome <;> decide
  · intro l hl
    exact setUp_of_not_hasOutput hl
  · intro l hl hopen
    exact ⟨setUp_eq_ok_iff hl hopen, setUp_eq_error hl hopen⟩
  · intro i hi
    obtain ⟨l, hby⟩ := installedBy_of_reached hi
    exact ⟨⟨l, hby, hby.serves⟩, fun more => run_installed hi more⟩
  · intro q hq
    exact run_node? steps hq

/-- A logger that comes too late leaves an empty file behind. -/
example :
    let s := reached "" (.withDirectory ["tmp", "d"])
      [.build (.ok ⟨.info, true, false, none⟩),
        .build (.ok ⟨.debug, false, false, some "/tmp/b"⟩), .setUp 0, .setUp 1]
    s.installed? = some ⟨some (.upTo .info), none⟩ ∧
      s.disk.node? ["tmp", "b"] = some (.file []) := by
  decide

end StatusCodes.Session
