import StatusCodes.Proofs.Session.Outputs

/-!
# Records that no directive is for

A logger that heeds the environment gives the log its own level as a limit, for the directives of
the environment to refine. But the limit holds only as long as there are no directives. The first
of them takes its place, whatever part of the program it is for, and nothing is left to decide on
the records of the other parts: these are not written, however important they are. The one
exception is a span that a directive names. It lifts the log for every record made inside.
-/

namespace StatusCodes

theorem Filter.admits_directed_of_not_covers {ds : List Directive} {r : Record}
    (h : ∀ d ∈ ds, d.covers r.target = false) : (Filter.directed ds).admits r = false := by
  have hnone : (ds.filter fun d => d.isPlain && d.appliesTo r) = [] := by
    rw [List.filter_eq_nil_iff]
    intro d hd
    rw [Directive.appliesTo, h d hd, Bool.false_and, Bool.and_false]
    exact Bool.false_ne_true
  rw [Filter.admits, hnone]
  rfl

namespace Session

/-- The log of a logger that has installed it is there from then on. -/
theorem exists_installed_of_installs {environment : String} {disk : Disk Entry}
    {before : List Step} {index : Nat} {l : Logger}
    (hlogger : (reached environment disk before).loggers[index]? = some l)
    (hinstalls : (reached environment disk before).installs (.setUp index) = true)
    (after : List Step) :
    ∃ i, (reached environment disk (before ++ .setUp index :: after)).installed? = some i ∧
      Serves i l environment := by
  obtain ⟨hnone, i, opened, hopens⟩ := opens_of_installs hlogger hinstalls
  have hby : InstalledBy environment disk (before ++ .setUp index :: after) l i :=
    ⟨before, index, after, opened, rfl, hnone, hlogger, hopens⟩
  exact ⟨i, hby.installed, hby.serves⟩

theorem filter_of_directives {l : Logger} {environment : String}
    (hheeds : l.heedsEnvironment = true) (h : Directive.ofEnvironment environment ≠ []) :
    l.filter environment = .directed (Directive.ofEnvironment environment) := by
  rw [Logger.filter, if_pos hheeds, Filter.ofEnvironment]
  cases hds : Directive.ofEnvironment environment with
  | nil => exact absurd hds h
  | cons d ds => rfl

/-- A step that makes a record hands it to the log. -/
theorem step_of_records {s : Session} {x : Step} {r : Record} (h : x.records s.policy = [r]) :
    (s.step x).2 = s.write r := by
  rcases s.step_cases x with ⟨index, l, rfl, -, -⟩ | ⟨r', hr', hs⟩ | ⟨hnone, -⟩
  · cases h
  · rw [h] at hr'
    cases hr'
    exact hs
  · rw [h] at hnone
    cases hnone

/-- Once a logger that heeds the environment has installed the log, a record that no directive is
for is written as the level of the logger has it if there are no directives. If there are any, the
level is not asked: an output receives the record only inside a span that lifts it, which some
directive names. -/
theorem uncovered_records_written (environment : String) (disk : Disk Entry)
    (before after : List Step) (index : Nat) {l : Logger} {x : Step} {r : Record}
    (hlogger : (reached environment disk before).loggers[index]? = some l)
    (hinstalls : (reached environment disk before).installs (.setUp index) = true)
    (hheeds : l.heedsEnvironment = true)
    (hrecord :
      x.records (reached environment disk (before ++ .setUp index :: after)).policy = [r])
    (huncovered : ∀ d ∈ Directive.ofEnvironment environment, d.covers r.target = false) :
    let s := reached environment disk (before ++ .setUp index :: after)
    let directives := Directive.ofEnvironment environment
    ∃ i, s.installed? = some i ∧ Serves i l environment ∧
      (directives = [] →
        (s.step x).2 = if r.level ≤ l.level then s.deliver i (fun _ => true) r else s) ∧
      (directives ≠ [] →
        (s.step x).2 = s.deliver i (fun k => s.isLifted k r.level) r ∧
          ((∀ k, s.isLifted k r.level = false) → (s.step x).2 = s)) ∧
      (directives ≠ [] → ∀ k, s.isLifted k r.level = true →
        ∃ d ∈ directives, d.namesSpan = true ∧ d.allows r.level = true) := by
  intro s directives
  obtain ⟨i, hi, hserves⟩ := exists_installed_of_installs hlogger hinstalls after
  have hconsulted : s.Consulted := consulted_reached environment disk _
  have hstep : (s.step x).2 = s.write r := step_of_records hrecord
  refine ⟨i, hi, hserves, ?_, ?_, ?_⟩
  · intro hempty
    rw [hstep]
    exact hconsulted.write_eq_ite hi (hserves.hasLimit (.inr hempty)) r
  · intro hsome
    have htakes : ∀ k, (i.filter? k).isSome → s.takes i r k = s.isLifted k r.level := by
      intro k hk
      obtain ⟨f, hf⟩ := Option.isSome_iff_exists.mp hk
      rw [hconsulted.takes_eq hi r hf, hserves.filter?_eq hf, filter_of_directives hheeds hsome,
        Filter.admits_directed_of_not_covers huncovered, Bool.false_or]
    rw [hstep, write_of_installed hi, deliver_congr htakes]
    exact ⟨rfl, deliver_of_not_takes⟩
  · intro hsome k hlifted
    obtain ⟨f, asked, hk, hlifts⟩ := hconsulted.exists_filter_of_isLifted hi hlifted
    rw [hserves.filter?_eq hk, filter_of_directives hheeds hsome] at hlifts
    exact Filter.exists_of_lifts_view hlifts

/-- An error is not written, though the logger takes records up to information, because there is a
directive for another part of the program. -/
theorem unrelated_directive_hides_error :
    let s := reached "other=debug" (.withDirectory ["tmp", "d"])
      [.build (.ok ⟨.info, true, true, none⟩), .setUp 0]
    (∀ d ∈ Directive.ofEnvironment "other=debug", d.covers Record.application = false) ∧
      (∀ k, s.isLifted k .error = false) ∧ (s.step (.note .error "boot")).2 = s := by
  intro s
  have huncovered : ∀ d ∈ Directive.ofEnvironment "other=debug",
      d.covers Record.application = false := by
    decide
  have hlifted : ∀ k, s.isLifted k .error = false := fun _ => rfl
  obtain ⟨i, -, -, -, hwritten, -⟩ :=
    uncovered_records_written "other=debug" (.withDirectory ["tmp", "d"])
      [.build (.ok ⟨.info, true, true, none⟩)] [] 0 (l := ⟨.info, true, true, none⟩)
      (x := .note .error "boot") rfl (by decide) rfl rfl huncovered
  exact ⟨huncovered, hlifted, (hwritten (by decide)).2 hlifted⟩

/-- Inside a span that a directive names, a record is written that no directive is for. -/
example :
    let s := reached "kstatus_log[kstatus]=trace" (.withDirectory ["tmp", "d"])
      [.build (.ok ⟨.info, true, true, none⟩), .setUp 0, .note .error "outside", .enterSpan,
        .note .debug "inside"]
    s.stdout = [⟨.note .debug "inside", 1⟩] := by
  decide

/-- Directives for other parts of the program replace the level instead of refining it. -/
theorem level_not_kept_beside_directives :
    ¬ ∀ (environment : String) (disk : Disk Entry) (before after : List Step) (index : Nat)
        (l : Logger) (x : Step) (r : Record),
      (reached environment disk before).loggers[index]? = some l →
      (reached environment disk before).installs (.setUp index) = true →
      l.heedsEnvironment = true →
      x.records (reached environment disk (before ++ .setUp index :: after)).policy = [r] →
      (∀ d ∈ Directive.ofEnvironment environment, d.covers r.target = false) →
      let s := reached environment disk (before ++ .setUp index :: after)
      ∃ i, s.installed? = some i ∧
        (s.step x).2 = if r.level ≤ l.level then s.deliver i (fun _ => true) r else s := by
  intro h
  obtain ⟨i, hi, hstep⟩ := h "other=debug" (.withDirectory ["tmp", "d"])
    [.build (.ok ⟨.info, true, true, none⟩)] [] 0 ⟨.info, true, true, none⟩
    (.note .error "boot") (.note .error "boot") rfl (by decide) rfl rfl (by decide)
  cases hi
  -- Nothing has come to standard output, where the error should have come.
  have hout := congrArg Session.stdout hstep
  exact absurd hout (by decide)

end Session

end StatusCodes
