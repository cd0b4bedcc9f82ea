import StatusCodes.Session
import StatusCodes.Proofs.Disk
import StatusCodes.Proofs.Report

/-!
# What a step can do

Three things happen to a log. It is set up, or at least an attempt is made, with all that a logger
does before it is refused: it opens its file, and its log is consulted. A record is made, which
reaches the outputs or does not. Or the step is about something else, and the log is left aside. The
lemmas of this module say so once, and everything that holds throughout a session is shown along
these three.

Which records a step makes is laid down here for itself, from the call and the policy, and then
found to be the record that the call makes.
-/

namespace StatusCodes

/-! ## The records of a step -/

namespace Session

/-- The records that a step makes under a policy: one for a failure at the level that the policy
has for it, if it has one, and one for what the application notes. -/
def Step.records (p : Policy) : Step → List Record
  | .call c =>
      match c.failure? with
      | none => []
      | some (code, message, context) =>
          match p.levelFor code with
          | none => []
          | some level =>
              [{ level := level
                 target := Record.reporter
                 message := message
                 incident? := some {
                   code := code.name
                   value := code.raw
                   category := (code.category.map Category.token).getD "-"
                   context := context } }]
  | .note level text =>
      [{ level := level, target := Record.application, message := text, incident? := none }]
  | _ => []

/-- The policy after a step. -/
def Step.policyAfter (p : Policy) : Step → Policy
  | .policy (.ok q) => q
  | _ => p

/-- The records that steps make in order, when they begin under a policy. -/
def made (p : Policy) : List Step → List Record
  | [] => []
  | x :: rest => x.records p ++ made (x.policyAfter p) rest

theorem records_call (p : Policy) (c : Call) :
    (Step.call c).records p = (c.record? p).toList := by
  rw [c.record?_eq p, Step.records]
  cases c.failure? with
  | none => rfl
  | some failure =>
      obtain ⟨code, message, context⟩ := failure
      simp only [Option.bind_some, Policy.record?]
      cases p.levelFor code <;> rfl

/-- The state that a session comes to. -/
def reached (environment : String) (disk : Disk Entry) (steps : List Step) : Session :=
  ((start environment disk).run steps).2

/-! ## Setting up -/

/-- The outputs of a log are those of a logger, and each of them has the filter of the logger. -/
structure Serves (i : Installation) (l : Logger) (environment : String) : Prop where
  stdout : i.stdout? = if l.stdout then some (l.filter environment) else none
  file : i.file?.map Prod.snd = l.file?.map fun _ => l.filter environment

/-- The outputs of a logger are opened: they belong to this log and leave this disk. -/
inductive Opens (s : Session) (l : Logger) : Installation → Disk Entry → Prop
  | stdout (hfile : l.file? = none) (hstdout : l.stdout = true) :
      Opens s l ⟨some (l.filter s.environment), none⟩ s.disk
  | file {path : String} {place : Disk.Path} {disk : Disk Entry} (hfile : l.file? = some path)
      (hcreate : s.disk.create path = .ok (place, disk)) :
      Opens s l ⟨if l.stdout then some (l.filter s.environment) else none,
        some (place, l.filter s.environment)⟩ disk

section

variable {s : Session} {l : Logger} {i : Installation} {disk : Disk Entry}

theorem setUp_of_not_hasOutput (h : l.hasOutput = false) : s.setUp l = (.ok (), s) := by
  rw [Logger.hasOutput, Bool.or_eq_false_iff, Option.isSome_eq_false_iff,
    Option.isNone_iff_eq_none] at h
  simp only [setUp, h.1, h.2]
  rfl

theorem setUp_of_create_eq_error {path : String} {e : HostError} (hfile : l.file? = some path)
    (h : s.disk.create path = .error e) : s.setUp l = (.error e.fault, s) := by
  simp only [setUp, hfile, h]

theorem setUp_of_opens (h : s.Opens l i disk) : s.setUp l = { s with disk := disk }.install i := by
  cases h with
  | stdout hfile hstdout => simp only [setUp, hfile, hstdout, if_true, Option.isSome_some]
  | file hfile hcreate => simp only [setUp, hfile, hcreate]

theorem install_of_not_installed (hs : s.installed? = none) (i : Installation) :
    s.install i = (.ok (), { s.consult i with installed? := some i }) := by
  have hconsulted : (s.consult i).installed? = none := hs
  simp only [install, hconsulted]

theorem install_of_installed {j : Installation} (hs : s.installed? = some j) (i : Installation) :
    s.install i = (.error alreadyInstalled, s.consult i) := by
  have hconsulted : (s.consult i).installed? = some j := hs
  simp only [install, hconsulted]

theorem setUp_of_opens_none (h : s.Opens l i disk) (hs : s.installed? = none) :
    s.setUp l = (.ok (), { s.consult i with disk := disk, installed? := some i }) := by
  rw [setUp_of_opens h]
  exact install_of_not_installed (s := { s with disk := disk }) hs i

theorem setUp_of_opens_some {j : Installation} (h : s.Opens l i disk)
    (hs : s.installed? = some j) :
    s.setUp l = (.error alreadyInstalled, { s.consult i with disk := disk }) := by
  rw [setUp_of_opens h]
  exact install_of_installed (s := { s with disk := disk }) hs i

/-- The step that installs the log. -/
theorem step_of_opens {index : Nat} (hs : s.installed? = none) (hl : s.loggers[index]? = some l)
    (h : s.Opens l i disk) :
    (s.step (.setUp index)).2 =
      { s.consult i with disk := disk, installed? := some i } := by
  simp only [step, hl]
  rw [setUp_of_opens_none h hs]

/-- A logger has no outputs, or has a file that cannot be created, or its outputs are opened. -/
theorem output_cases (s : Session) (l : Logger) :
    l.hasOutput = false ∨
      (∃ path e, l.file? = some path ∧ s.disk.create path = .error e) ∨
        ∃ i disk, s.Opens l i disk := by
  cases hfile : l.file? with
  | none =>
      cases hstdout : l.stdout with
      | false =>
          left
          rw [Logger.hasOutput, hstdout, hfile]
          rfl
      | true => exact .inr (.inr ⟨_, _, .stdout hfile hstdout⟩)
  | some path =>
      cases hcreate : s.disk.create path with
      | error e => exact .inr (.inl ⟨path, e, rfl, hcreate⟩)
      | ok created => exact .inr (.inr ⟨_, _, .file hfile hcreate⟩)

theorem Opens.hasOutput (h : s.Opens l i disk) : l.hasOutput = true := by
  cases h with
  | stdout hfile hstdout => rw [Logger.hasOutput, hstdout, Bool.true_or]
  | file hfile hcreate => rw [Logger.hasOutput, hfile, Option.isSome_some, Bool.or_true]

theorem Opens.serves (h : s.Opens l i disk) : Serves i l s.environment := by
  cases h with
  | stdout hfile hstdout => exact ⟨by rw [if_pos hstdout], by rw [hfile]; rfl⟩
  | file hfile hcreate => exact ⟨rfl, by rw [hfile]; rfl⟩

theorem Opens.create_of_file? {path : String} (h : s.Opens l i disk) (hpath : l.file? = some path) :
    ∃ place, i.place? = some place ∧ s.disk.create path = .ok (place, disk) := by
  cases h with
  | stdout hfile hstdout =>
      rw [hfile] at hpath
      cases hpath
  | file hfile hcreate =>
      rw [hfile] at hpath
      cases hpath
      exact ⟨_, rfl, hcreate⟩

theorem Opens.exists_of_place? {place : Disk.Path} (h : s.Opens l i disk)
    (hplace : i.place? = some place) :
    ∃ path, l.file? = some path ∧ s.disk.create path = .ok (place, disk) := by
  cases h with
  | stdout hfile hstdout => cases hplace
  | file hfile hcreate =>
      cases hplace
      exact ⟨_, hfile, hcreate⟩

theorem Opens.node?_other (h : s.Opens l i disk) {q : Disk.Path} (hq : i.place? ≠ some q) :
    disk.node? q = s.disk.node? q := by
  cases h with
  | stdout => rfl
  | file hfile hcreate =>
      refine Disk.node?_create_other hcreate ?_
      rintro rfl
      exact hq rfl

theorem Opens.node?_or (h : s.Opens l i disk) (q : Disk.Path) :
    disk.node? q = s.disk.node? q ∨ disk.node? q = some (.file []) := by
  cases h with
  | stdout => exact .inl rfl
  | file hfile hcreate => exact Disk.node?_create_or hcreate q

end

/-! ## The outputs of a log -/

section

variable {i : Installation} {l : Logger} {environment : String} {f : Filter} {k : Sink}

theorem Serves.isSome_stdout? (h : Serves i l environment) : i.stdout?.isSome = l.stdout := by
  rw [h.stdout]
  cases l.stdout <;> rfl

/-- Every output has the filter of the logger. -/
theorem Serves.filter?_eq (h : Serves i l environment) (hk : i.filter? k = some f) :
    f = l.filter environment := by
  cases k with
  | stdout =>
      have hstdout : i.stdout? = some f := hk
      rw [h.stdout] at hstdout
      exact ((Option.ite_none_right_eq_some.mp hstdout).2 |> Option.some.inj).symm
  | file =>
      have hfile : i.file?.map Prod.snd = some f := hk
      rw [h.file, Option.map_eq_some_iff] at hfile
      obtain ⟨path, -, hf⟩ := hfile
      exact hf.symm

end

/-! ## Handing on -/

section

variable {s : Session} {i : Installation} {takes : Sink → Bool} {r : Record} {place : Disk.Path}

theorem deliver_disk_of_some (h : i.place? = some place) :
    (s.deliver i takes r).disk =
      if takes .file then s.disk.append place (s.entry .file r) else s.disk := by
  simp only [deliver, h]

theorem deliver_disk_of_none (h : i.place? = none) : (s.deliver i takes r).disk = s.disk := by
  simp only [deliver, h]

/-- Nothing is handed to an output that the log does not have. -/
theorem deliver_congr {takes' : Sink → Bool}
    (h : ∀ k, (i.filter? k).isSome → takes k = takes' k) :
    s.deliver i takes r = s.deliver i takes' r := by
  have hstdout : (i.stdout?.isSome && takes .stdout) = (i.stdout?.isSome && takes' .stdout) := by
    cases hsome : i.stdout?.isSome with
    | false => rfl
    | true => exact h .stdout hsome
  have hfile : ∀ place, i.place? = some place → takes .file = takes' .file := by
    intro place hplace
    exact h .file (by rw [i.isSome_filter?_file, hplace, Option.isSome_some])
  cases hplace : i.place? with
  | none => simp only [deliver, hplace, hstdout]
  | some place => simp only [deliver, hplace, hstdout, hfile place hplace]

theorem deliver_of_not_takes (h : ∀ k, takes k = false) : s.deliver i takes r = s := by
  cases hplace : i.place? with
  | none => simp [deliver, hplace, h]
  | some place => simp [deliver, hplace, h]

theorem write_of_not_installed (h : s.installed? = none) (r : Record) : s.write r = s := by
  simp only [write, h]

theorem write_of_installed (h : s.installed? = some i) (r : Record) :
    s.write r = s.deliver i (s.takes i r) r := by
  simp only [write, h]

end

/-! ## Every step -/

variable (s : Session)

/-- Setting up changes nothing, or consults a log and changes the disk, or also installs the log. -/
theorem setUp_cases (l : Logger) :
    (s.setUp l).2 = s ∨ ∃ i disk, s.Opens l i disk ∧ (s.setUp l).2 =
      { s.consult i with disk := disk, installed? := some (s.installed?.getD i) } := by
  rcases s.output_cases l with h | ⟨path, e, hfile, hcreate⟩ | ⟨i, disk, h⟩
  · exact .inl (by rw [setUp_of_not_hasOutput h])
  · exact .inl (by rw [setUp_of_create_eq_error hfile hcreate])
  · refine .inr ⟨i, disk, h, ?_⟩
    cases hs : s.installed? with
    | none => rw [setUp_of_opens_none h hs, Option.getD_none]
    | some j =>
        rw [setUp_of_opens_some h hs, Option.getD_some, ← hs]
        rfl

/-- Setting up concerns the log, what the process asks first, and the disk. -/
theorem setUp_eq (l : Logger) :
    ∃ installed? ceiling? interest? disk, (s.setUp l).2 =
      { s with
        installed? := installed?
        ceiling? := ceiling?
        interest? := interest?
        disk := disk } := by
  rcases s.setUp_cases l with h | ⟨i, disk, -, h⟩
  · exact ⟨s.installed?, s.ceiling?, s.interest?, s.disk, h⟩
  · exact ⟨_, _, _, disk, h⟩

/-- Making a record concerns the outputs. -/
theorem write_eq (r : Record) :
    ∃ stdout disk, s.write r = { s with stdout := stdout, disk := disk } := by
  rw [write]
  split
  · exact ⟨s.stdout, s.disk, rfl⟩
  · exact ⟨_, _, rfl⟩

/-- Nothing has come to the log between these states. A span may have been entered or left. -/
def LeavesLog (s s' : Session) : Prop :=
  ∃ policy loggers interest? spans,
    s' = { s with policy := policy, loggers := loggers, interest? := interest?, spans := spans } ∧
      (interest? = s.interest? ∨ interest? = s.spanInterest?.or s.interest?) ∧
      ∀ standing ∈ spans, standing = s.standing ∨ standing ∈ s.spans

theorem leavesLog_of_eq {s s' : Session} (policy : Policy) (loggers : List Logger)
    (h : s' = { s with policy := policy, loggers := loggers }) : s.LeavesLog s' :=
  ⟨policy, loggers, s.interest?, s.spans, h, .inl rfl, fun _ hmem => .inr hmem⟩

/-- A step sets a log up, or makes a record, or is about something else. -/
theorem step_cases (x : Step) :
    (∃ index l, x = .setUp index ∧ s.loggers[index]? = some l ∧ (s.step x).2 = (s.setUp l).2) ∨
      (∃ r, x.records s.policy = [r] ∧ (s.step x).2 = s.write r) ∨
        (x.records s.policy = [] ∧ s.LeavesLog (s.step x).2) := by
  cases x with
  | policy p =>
      cases p with
      | ok q => exact .inr (.inr ⟨rfl, leavesLog_of_eq q s.loggers rfl⟩)
      | error f => exact .inr (.inr ⟨rfl, leavesLog_of_eq s.policy s.loggers rfl⟩)
  | build l =>
      cases l with
      | ok l => exact .inr (.inr ⟨rfl, leavesLog_of_eq s.policy (s.loggers ++ [l]) rfl⟩)
      | error f => exact .inr (.inr ⟨rfl, leavesLog_of_eq s.policy s.loggers rfl⟩)
  | setUp index =>
      cases hl : s.loggers[index]? with
      | some l => exact .inl ⟨index, l, rfl, hl, by simp only [step, hl]⟩
      | none =>
          refine .inr (.inr ⟨rfl, leavesLog_of_eq s.policy s.loggers ?_⟩)
          simp only [step, hl]
  | enterSpan =>
      refine .inr (.inr ⟨rfl, s.policy, s.loggers, _, _, rfl, .inr rfl, ?_⟩)
      intro standing hmem
      exact List.mem_cons.mp hmem
  | exitSpan =>
      refine .inr (.inr ⟨rfl, s.policy, s.loggers, s.interest?, _, rfl, .inl rfl, ?_⟩)
      intro standing hmem
      exact .inr (List.mem_of_mem_tail hmem)
  | call c =>
      have hrecords := records_call s.policy c
      cases hr : c.record? s.policy with
      | some r =>
          rw [hr] at hrecords
          exact .inr (.inl ⟨r, hrecords, by simp only [step, hr]⟩)
      | none =>
          rw [hr] at hrecords
          refine .inr (.inr ⟨hrecords, leavesLog_of_eq s.policy s.loggers ?_⟩)
          simp only [step, hr]
  | note level text => exact .inr (.inl ⟨_, rfl, rfl⟩)

theorem step_environment (x : Step) : (s.step x).2.environment = s.environment := by
  rcases s.step_cases x with ⟨index, l, -, -, h⟩ | ⟨r, -, h⟩ |
    ⟨-, policy, loggers, interest?, spans, h, -⟩
  · obtain ⟨installed?, ceiling?, interest?, disk, hl⟩ := s.setUp_eq l
    rw [h, hl]
  · obtain ⟨stdout, disk, hr⟩ := s.write_eq r
    rw [h, hr]
  · rw [h]

theorem step_policy (x : Step) : (s.step x).2.policy = x.policyAfter s.policy := by
  cases x with
  | policy p => cases p <;> rfl
  | build l => cases l <;> rfl
  | setUp index =>
      simp only [step]
      split
      · rfl
      · next l hl =>
          obtain ⟨installed?, ceiling?, interest?, disk, h⟩ := s.setUp_eq l
          rw [h]
          rfl
  | enterSpan => rfl
  | exitSpan => rfl
  | call c =>
      simp only [step]
      split
      · next r hr =>
          obtain ⟨stdout, disk, h⟩ := s.write_eq r
          rw [h]
          rfl
      · rfl
  | note level text =>
      obtain ⟨stdout, disk, h⟩ := s.write_eq (.note level text)
      rw [step, h]
      rfl

theorem run_policy (steps : List Step) :
    (s.run steps).2.policy = steps.foldl Step.policyAfter s.policy := by
  induction steps generalizing s with
  | nil => rfl
  | cons x rest ih => rw [run_cons, ih, step_policy, List.foldl_cons]

theorem run_environment (steps : List Step) : (s.run steps).2.environment = s.environment := by
  induction steps generalizing s with
  | nil => rfl
  | cons x rest ih => rw [run_cons, ih, step_environment]

theorem reached_environment (environment : String) (disk : Disk Entry) (steps : List Step) :
    (reached environment disk steps).environment = environment :=
  run_environment (start environment disk) steps

theorem reached_policy (environment : String) (disk : Disk Entry) (steps : List Step) :
    (reached environment disk steps).policy = steps.foldl Step.policyAfter .standard :=
  run_policy (start environment disk) steps

theorem reached_append (environment : String) (disk : Disk Entry) (before : List Step) (x : Step)
    (after : List Step) : reached environment disk (before ++ x :: after) =
      (((reached environment disk before).step x).2.run after).2 := by
  rw [reached, run_append, run_cons]
  rfl

end Session

end StatusCodes
