import Mathlib.Data.List.Infix
import StatusCodes.Proofs.Session.Outputs
import StatusCodes.Session.Line

/-!
# The spans around a record

A record is written with the number of spans that are shown around it. Which spans these are can be
read off the script alone: a span is around a record if it was entered before and if, from then on,
the script has never left more spans than it has entered. How a span stands was settled when it was
entered, and a log with a level and no directives shows it exactly if its level is the finest. So a
span that was entered before there was a log stays hidden, whatever log is installed inside it.

A log with a coarser level shows no span, but it may have taken one, and then the span is answered
for as if it were shown. This can only come of another log that was offered since and refused: as
long as none is, the ceiling of the process is that of the log, and spans are above it.

The session itself keeps its spans on a stack. That the stack holds the spans of the script, each as
it stood when it was entered, is shown by running the script from its first step on: what the rest
of the script leaves on the stack are the spans that it enters and does not leave, on top of those
that were there before and that it does not reach down to.
-/

namespace StatusCodes

/-- The part of a line that shows some spans. -/
def Sink.spanText (sink : Sink) (spans : Nat) : String :=
  if spans = 0 then ""
  else String.join
    (List.replicate spans (sink.paint Sink.bold Span.name ++ sink.paint Sink.dim ":")) ++ " "

/-- The lines of entries that differ in their spans differ in nothing else. -/
theorem Entry.exists_text_eq (sink : Sink) (time : String) (r : Record) :
    ∃ front back, ∀ spans,
      Entry.text sink time ⟨r, spans⟩ = front ++ sink.spanText spans ++ back := by
  refine ⟨sink.paint Sink.dim time ++ " " ++ sink.paint r.level.colour r.level.column ++
    sink.thread ++ " ", sink.paint Sink.dim r.target ++ sink.paint Sink.dim ":" ++ " " ++
    Entry.shownMessage r.message ++ String.join (((r.incident?.map Incident.fields).getD []).map
      fun detail => " " ++ sink.paint Sink.italic detail.1 ++ sink.paint Sink.dim "=" ++ detail.2),
    ?_⟩
  intro spans
  simp only [Entry.text, Sink.spanText, String.append_assoc]

namespace Session

/-! ## The spans of a script -/

/-- Whether a step enters a span. -/
def Step.enters : Step → Bool
  | .enterSpan => true
  | _ => false

/-- Whether a step leaves a span. -/
def Step.leaves : Step → Bool
  | .exitSpan => true
  | _ => false

/-- Whether a span that was entered before these steps is still around after them. It is unless at
some moment the steps have left more spans than they have entered. -/
def outlasts (later : List Step) : Bool :=
  later.inits.all fun part => part.countP Step.leaves ≤ part.countP Step.enters

/-- The spans that some steps enter and that are still around after them. Each is given by all the
steps before it was entered, and the one that was entered first stands first. -/
def around (earlier : List Step) : List Step → List (List Step)
  | [] => []
  | x :: rest =>
      (if x.enters && outlasts rest then [earlier] else []) ++ around (earlier ++ [x]) rest

/-- How many of the spans that were around before the steps the steps leave, if there are enough. -/
def excess : List Step → Nat
  | [] => 0
  | .enterSpan :: rest => excess rest - 1
  | .exitSpan :: rest => excess rest + 1
  | _ :: rest => excess rest

theorem excess_le_iff {steps : List Step} {n : Nat} :
    excess steps ≤ n ↔
      ∀ part ∈ steps.inits, part.countP Step.leaves ≤ part.countP Step.enters + n := by
  induction steps generalizing n with
  | nil => simp [excess]
  | cons x rest ih =>
      rw [List.inits_cons, List.forall_mem_cons, List.forall_mem_map]
      simp only [List.countP_nil, Nat.zero_le, true_and, List.countP_cons]
      cases x with
      | enterSpan =>
          rw [excess, Nat.sub_le_iff_le_add, ih]
          refine forall₂_congr fun part _ => ?_
          simp only [Step.enters, Step.leaves, if_true, Bool.false_eq_true, if_false]
          omega
      | exitSpan =>
          cases n with
          | zero =>
              -- The step alone leaves more spans than it enters.
              refine ⟨fun h => absurd h (Nat.not_succ_le_zero _), fun h => ?_⟩
              exact absurd (h [] (by simp)) (by decide)
          | succ m =>
              rw [excess, Nat.add_le_add_iff_right, ih]
              refine forall₂_congr fun part _ => ?_
              simp only [Step.enters, Step.leaves, if_true, Bool.false_eq_true, if_false]
              omega
      | _ =>
          exact ih

theorem outlasts_iff {later : List Step} : outlasts later = true ↔ excess later = 0 := by
  rw [← Nat.le_zero, excess_le_iff, outlasts, List.all_eq_true]
  exact forall₂_congr fun part _ => decide_eq_true_iff

/-- The spans of a script were entered in it. -/
theorem prefix_of_mem_around {earlier steps before : List Step}
    (h : before ∈ around earlier steps) : before <+: earlier ++ steps := by
  induction steps generalizing earlier with
  | nil => cases h
  | cons x rest ih =>
      rw [around, List.mem_append] at h
      rcases h with hfirst | hrest
      · split at hfirst
        · rw [List.mem_singleton.mp hfirst]
          exact List.prefix_append earlier (x :: rest)
        · cases hfirst
      · rw [List.append_cons]
        exact ih hrest

/-! ## The spans of a session -/

theorem reached_concat (environment : String) (disk : Disk Entry) (steps : List Step) (x : Step) :
    reached environment disk (steps ++ [x]) = ((reached environment disk steps).step x).2 :=
  reached_append environment disk steps x []

/-- Only entering and leaving changes the spans. -/
theorem step_spans (s : Session) {x : Step} (henters : x.enters = false)
    (hleaves : x.leaves = false) : (s.step x).2.spans = s.spans := by
  cases x with
  | enterSpan => cases henters
  | exitSpan => cases hleaves
  | policy p => cases p <;> rfl
  | build l => cases l <;> rfl
  | setUp index =>
      simp only [step]
      split
      · rfl
      · next l hl =>
          obtain ⟨installed?, ceiling?, interest?, disk, h⟩ := s.setUp_eq l
          rw [h]
  | call c =>
      simp only [step]
      split
      · next r hr =>
          obtain ⟨stdout, disk, h⟩ := s.write_eq r
          rw [h]
      · rfl
  | note level text =>
      obtain ⟨stdout, disk, h⟩ := s.write_eq (.note level text)
      rw [step, h]

theorem step_exitSpan_of_nil {s : Session} (h : s.spans = []) :
    s.step .exitSpan = (.left false, s) := by
  obtain ⟨environment, policy, loggers, installed?, ceiling?, interest?, spans, stdout, disk⟩ := s
  cases h
  rfl

theorem step_exitSpan_of_cons {s : Session} {standing : Span.Standing}
    {outer : List Span.Standing} (h : s.spans = standing :: outer) :
    (s.step .exitSpan).1 = .left true := by
  rw [step, h]
  rfl

theorem shownSpans_exitSpan {s : Session} {standing : Span.Standing}
    {outer : List Span.Standing} {k : Sink} (h : s.spans = standing :: outer)
    (hhidden : (standing.view k).isShown = false) :
    (s.step .exitSpan).2.shownSpans k = s.shownSpans k := by
  have houter : (s.step .exitSpan).2.spans = outer := congrArg List.tail h
  rw [shownSpans, shownSpans, houter, h, List.countP_cons_of_neg (by simp [hhidden])]

/-- What a step does to the spans that the following steps do not leave. -/
theorem drop_excess_step (s : Session) (x : Step) (rest : List Step) :
    (s.step x).2.spans.drop (excess rest) =
      (if x.enters && outlasts rest then [s.standing] else []) ++
        s.spans.drop (excess (x :: rest)) := by
  cases x with
  | enterSpan =>
      change (s.standing :: s.spans).drop (excess rest) =
        (if outlasts rest then [s.standing] else []) ++ s.spans.drop (excess rest - 1)
      cases h : excess rest with
      | zero =>
          rw [if_pos (outlasts_iff.mpr h)]
          rfl
      | succ n =>
          -- The first of the spans that are left later is the one just entered.
          rw [if_neg (by rw [outlasts_iff, h]; exact Nat.succ_ne_zero n)]
          rfl
  | exitSpan =>
      change s.spans.tail.drop (excess rest) = s.spans.drop (excess rest + 1)
      exact List.drop_tail
  | _ =>
      rw [step_spans s rfl rfl]
      rfl

/-- How a span stands that is entered after some steps. -/
def standingAfter (environment : String) (disk : Disk Entry) (steps : List Step) : Span.Standing :=
  (reached environment disk steps).standing

theorem spans_run (environment : String) (disk : Disk Entry) (earlier steps : List Step) :
    ((reached environment disk earlier).run steps).2.spans =
      ((around earlier steps).map (standingAfter environment disk)).reverse ++
        (reached environment disk earlier).spans.drop (excess steps) := by
  induction steps generalizing earlier with
  | nil => rfl
  | cons x rest ih =>
      rw [run_cons, ← reached_concat, ih, reached_concat, drop_excess_step, around,
        List.map_append, List.reverse_append, List.append_assoc]
      congr 2
      split <;> rfl

/-- The session holds the spans of its script, the latest first, and each of them stands as it did
when it was entered. -/
theorem spans_reached (environment : String) (disk : Disk Entry) (steps : List Step) :
    (reached environment disk steps).spans =
      ((around [] steps).map (standingAfter environment disk)).reverse := by
  have hrun := spans_run environment disk [] steps
  have hstart : (reached environment disk []).spans = [] := rfl
  rw [hstart, List.drop_nil, List.append_nil] at hrun
  exact hrun

/-! ## The level of the log -/

/-- The level of the log that is installed after some steps, if one is: the finest that an output
lets through. -/
def levelAfter? (environment : String) (disk : Disk Entry) (steps : List Step) : Option Level :=
  (reached environment disk steps).installed?.bind Installation.ceiling?

section

variable {environment : String} {disk : Disk Entry} {steps earlier : List Step}
  {l : Logger} {i : Installation}

theorem LevelAlone.of_beginning (h : LevelAlone environment disk steps)
    (hbefore : earlier <+: steps) :
    LevelAlone environment disk earlier := by
  obtain ⟨more, rfl⟩ := hbefore
  intro l i hby
  exact h l i (hby.append more)

theorem InstalledBy.exists_output (h : InstalledBy environment disk steps l i) :
    ∃ k, (i.filter? k).isSome := by
  obtain ⟨before, index, after, opened, -, -, -, hopens⟩ := h
  exact hopens.exists_output

/-- If all outputs have one limit, this is the ceiling of the log. -/
theorem HasLimit.ceiling?_eq {limit : Level} {k : Sink} (h : HasLimit i limit)
    (hk : (i.filter? k).isSome) : i.ceiling? = some limit := by
  obtain ⟨stdout?, file?⟩ := i
  have hfinest : Level.finest [some limit, some limit] = some limit := by cases limit <;> rfl
  cases stdout? with
  | none =>
      cases file? with
      | none => cases k <;> cases hk
      | some output =>
          obtain ⟨place, g⟩ := output
          obtain rfl : g = .upTo limit := h .file g rfl
          rfl
  | some f =>
      obtain rfl : f = .upTo limit := h .stdout f rfl
      cases file? with
      | none => rfl
      | some output =>
          obtain ⟨place, g⟩ := output
          obtain rfl : g = .upTo limit := h .file g rfl
          exact hfinest

theorem InstalledBy.levelAfter?_eq (h : InstalledBy environment disk steps l i)
    (halone : LevelAlone environment disk steps) :
    levelAfter? environment disk steps = some l.level := by
  obtain ⟨k, hk⟩ := h.exists_output
  rw [levelAfter?, h.installed, Option.bind_some, (h.hasLimit halone).ceiling?_eq hk]

theorem levelAfter?_of_not_installed (h : (reached environment disk steps).installed? = none) :
    levelAfter? environment disk steps = none := by
  rw [levelAfter?, h, Option.bind_none]

theorem levelAfter?_eq_some_iff (halone : LevelAlone environment disk steps) {level : Level} :
    levelAfter? environment disk steps = some level ↔
      ∃ l i, InstalledBy environment disk steps l i ∧ l.level = level := by
  constructor
  · intro h
    cases hi : (reached environment disk steps).installed? with
    | none =>
        rw [levelAfter?_of_not_installed hi] at h
        cases h
    | some i =>
        obtain ⟨l, hby⟩ := installedBy_of_reached hi
        rw [hby.levelAfter?_eq halone] at h
        exact ⟨l, i, hby, Option.some.inj h⟩
  · rintro ⟨l, i, hby, rfl⟩
    exact hby.levelAfter?_eq halone

/-! ## How spans stand -/

/-- A log with a level alone shows spans if the level is the finest. -/
theorem HasLimit.view_eq {limit : Level} {k : Sink} (h : HasLimit i limit)
    (hk : (i.filter? k).isSome) :
    i.view true k = if limit = .trace then .shown none else .hidden := by
  rw [Installation.view_eq true (h.filter?_eq hk)]
  cases limit <;> rfl

theorem standingAfter_of_not_installed (h : (reached environment disk steps).installed? = none) :
    standingAfter environment disk steps = .absent := by
  simp only [standingAfter, standing, h]

/-- An output of the log shows a span if the level of the log is the finest. -/
theorem InstalledBy.view_standingAfter (h : InstalledBy environment disk steps l i)
    (halone : LevelAlone environment disk steps) {k : Sink} (hk : (i.filter? k).isSome) :
    (standingAfter environment disk steps).view k =
      if levelAfter? environment disk steps = some .trace then .shown none else .hidden := by
  have hlimit := h.hasLimit halone
  rw [standingAfter,
    (consulted_reached environment disk steps).view_standing h.installed hlimit.isSteady,
    hlimit.view_eq hk, h.levelAfter?_eq halone]
  simp only [Option.some.injEq]

/-- Nothing shows a span if the level of the log is not the finest. -/
theorem view_standingAfter_of_coarser (halone : LevelAlone environment disk steps)
    (hlevel : levelAfter? environment disk steps ≠ some .trace) (k : Sink) :
    (standingAfter environment disk steps).view k = .hidden := by
  cases hi : (reached environment disk steps).installed? with
  | none =>
      rw [standingAfter_of_not_installed hi]
      rfl
  | some i =>
      obtain ⟨l, hby⟩ := installedBy_of_reached hi
      cases hk : i.filter? k with
      | some f => rw [hby.view_standingAfter halone (by rw [hk]; rfl), if_neg hlevel]
      | none =>
          rw [standingAfter, (consulted_reached environment disk steps).view_standing hi
            (hby.hasLimit halone).isSteady]
          simp only [Installation.view, hk]

/-- A log was offered and refused because one was installed. -/
def OfferedInVain (environment : String) (disk : Disk Entry) (steps : List Step) : Prop :=
  ∃ before index after, steps = before ++ .setUp index :: after ∧
    ((reached environment disk before).step (.setUp index)).1 = .refused alreadyInstalled

/-- A step that does not offer a log in vain leaves the ceiling that of the log. -/
theorem step_ceiling? {s : Session} {x : Step}
    (h : s.ceiling? = s.installed?.bind Installation.ceiling?)
    (hlate : ∀ index, x = .setUp index → (s.step x).1 ≠ .refused alreadyInstalled) :
    (s.step x).2.ceiling? = (s.step x).2.installed?.bind Installation.ceiling? := by
  rcases s.step_cases x with ⟨index, l, rfl, hl, hstep⟩ | ⟨r, -, hstep⟩ |
    ⟨-, policy, loggers, interest?, spans, hstep, -⟩
  · rw [hstep]
    rcases s.output_cases l with hout | ⟨path, e, hfile, hcreate⟩ | ⟨i, opened, hopens⟩
    · rw [setUp_of_not_hasOutput hout]
      exact h
    · rw [setUp_of_create_eq_error hfile hcreate]
      exact h
    · cases hi : s.installed? with
      | none =>
          rw [setUp_of_opens_none hopens hi]
          simp only [consult, hi]
          rfl
      | some j =>
          refine absurd ?_ (hlate index rfl)
          simp only [step, hl, setUp_of_opens_some hopens hi]
          rfl
  · obtain ⟨stdout, opened, hr⟩ := s.write_eq r
    rw [hstep, hr]
    exact h
  · rw [hstep]
    exact h

/-- As long as no log is offered in vain, the ceiling is that of the log. -/
theorem ceiling?_reached (h : ¬ OfferedInVain environment disk steps) :
    (reached environment disk steps).ceiling? =
      (reached environment disk steps).installed?.bind Installation.ceiling? := by
  induction steps using List.reverseRecOn with
  | nil => rfl
  | append_singleton earlier x ih =>
      have hearlier : ¬ OfferedInVain environment disk earlier := by
        rintro ⟨before, index, after, rfl, hrefused⟩
        refine h ⟨before, index, after ++ [x], ?_, hrefused⟩
        rw [List.append_assoc, List.cons_append]
      rw [reached_concat]
      refine step_ceiling? (ih hearlier) ?_
      rintro index rfl hrefused
      exact h ⟨earlier, index, [], rfl, hrefused⟩

/-- A log whose level is not the finest takes a span only after another one was offered in vain. -/
theorem offeredInVain_of_taken (halone : LevelAlone environment disk steps)
    (hlevel : levelAfter? environment disk steps ≠ some .trace)
    (htaken : standingAfter environment disk steps ≠ .absent) :
    OfferedInVain environment disk steps := by
  by_contra hnever
  refine htaken ?_
  cases hi : (reached environment disk steps).installed? with
  | none => exact standingAfter_of_not_installed hi
  | some i =>
      have hceiling : (reached environment disk steps).ceiling? =
          levelAfter? environment disk steps := ceiling?_reached hnever
      obtain ⟨l, hby⟩ := installedBy_of_reached hi
      rw [hby.levelAfter?_eq halone] at hceiling hlevel
      have habove : Span.level.isWithin (reached environment disk steps).ceiling? = false := by
        rw [hceiling]
        cases hl : l.level with
        | trace => exact absurd (congrArg some hl) hlevel
        | _ => rfl
      have hnone : (reached environment disk steps).spanInterest? = none := by
        rw [spanInterest?, habove]
        rfl
      simp only [standingAfter, standing, hi, hnone]

/-! ## What is shown with a record -/

/-- How many spans are shown with a record made after some steps: those around it that were entered
when a log of the finest level was installed. -/
def shownAfter (environment : String) (disk : Disk Entry) (steps : List Step) : Nat :=
  (around [] steps).countP fun earlier => levelAfter? environment disk earlier = some .trace

theorem shownSpans_reached (halone : LevelAlone environment disk steps)
    (hi : (reached environment disk steps).installed? = some i) {k : Sink}
    (hk : (i.filter? k).isSome) :
    (reached environment disk steps).shownSpans k = shownAfter environment disk steps := by
  rw [shownSpans, spans_reached, List.countP_reverse, List.countP_map, shownAfter]
  refine List.countP_congr ?_
  intro earlier hmem
  obtain ⟨more, rfl⟩ : earlier <+: steps := prefix_of_mem_around hmem
  have halone' := halone.of_beginning (List.prefix_append earlier more)
  rw [Function.comp_apply, decide_eq_true_eq]
  by_cases hlevel : levelAfter? environment disk earlier = some .trace
  · -- The log that was installed then is the one that is installed now.
    obtain ⟨l, j, hby, -⟩ := (levelAfter?_eq_some_iff halone').mp hlevel
    obtain rfl : j = i := Option.some.inj ((hby.append more).installed.symm.trans hi)
    rw [hby.view_standingAfter halone' hk, if_pos hlevel]
    exact iff_of_true rfl hlevel
  · rw [view_standingAfter_of_coarser halone' hlevel]
    exact iff_of_false Bool.false_ne_true hlevel

/-- What is logged of some steps, behind earlier ones: the records that the level of the log lets
through when they are made, each with the spans that are shown with it. -/
def logged (environment : String) (disk : Disk Entry) (earlier : List Step) :
    List Step → List Entry
  | [] => []
  | x :: rest =>
      (match levelAfter? environment disk earlier with
        | none => []
        | some limit =>
            (visible limit (x.records (earlier.foldl Step.policyAfter .standard))).map fun r =>
              ⟨r, shownAfter environment disk earlier⟩) ++
        logged environment disk (earlier ++ [x]) rest

theorem logged_append (environment : String) (disk : Disk Entry) (earlier a b : List Step) :
    logged environment disk earlier (a ++ b) =
      logged environment disk earlier a ++ logged environment disk (earlier ++ a) b := by
  induction a generalizing earlier with
  | nil =>
      rw [List.append_nil]
      rfl
  | cons x a ih =>
      rw [List.cons_append, logged, logged, ih, List.append_assoc, List.append_assoc]
      rfl

theorem logged_of_not_installed
    (h : (reached environment disk (earlier ++ steps)).installed? = none) :
    logged environment disk earlier steps = [] := by
  induction steps generalizing earlier with
  | nil => rfl
  | cons x rest ih =>
      have hnone : (reached environment disk earlier).installed? = none := by
        cases hi : (reached environment disk earlier).installed? with
        | none => rfl
        | some i =>
            rw [reached_append, run_installed (step_installed hi x) rest] at h
            cases h
      rw [logged, levelAfter?_of_not_installed hnone, List.nil_append]
      refine ih ?_
      rw [List.append_assoc]
      exact h

/-- With the log installed, what an output receives of steps is what is logged of them. -/
theorem entriesOfSteps_reached (halone : LevelAlone environment disk (earlier ++ steps))
    (hby : InstalledBy environment disk earlier l i) {k : Sink} (hk : (i.filter? k).isSome) :
    (reached environment disk earlier).entriesOfSteps k l.level steps =
      logged environment disk earlier steps := by
  induction steps generalizing earlier with
  | nil => rfl
  | cons x rest ih =>
      have halone' := halone.of_beginning (List.prefix_append earlier _)
      have hshown := shownSpans_reached halone' hby.installed hk
      rw [List.append_cons] at halone
      have hrest := ih halone (hby.append [x])
      rw [reached_concat] at hrest
      have hentry : (reached environment disk earlier).entry k =
          fun r => ⟨r, shownAfter environment disk earlier⟩ := by
        funext r
        rw [entry, hshown]
      rw [entriesOfSteps, logged, hby.levelAfter?_eq halone', hrest, entriesOf, reached_policy,
        hentry]

/-! ## The outputs -/

theorem reached_of_opens {index : Nat} {opened : Disk Entry}
    (hnone : (reached environment disk steps).installed? = none)
    (hl : (reached environment disk steps).loggers[index]? = some l)
    (hopens : (reached environment disk steps).Opens l i opened) :
    reached environment disk (steps ++ [.setUp index]) =
      { (reached environment disk steps).consult i with disk := opened, installed? := some i } := by
  rw [reached_concat, step_of_opens hnone hl hopens]

/-- Until the log is installed nothing is logged, and installing it makes no record. -/
theorem logged_of_installation {index : Nat} {after : List Step}
    (hnone : (reached environment disk steps).installed? = none) :
    logged environment disk [] (steps ++ [.setUp index] ++ after) =
      logged environment disk (steps ++ [.setUp index]) after := by
  rw [logged_append, logged_append, logged_of_not_installed hnone, List.nil_append,
    List.nil_append, List.nil_append, logged, levelAfter?_of_not_installed hnone]
  rfl

/-- From empty outputs on, a log that has been installed has received what is logged of the
script. -/
theorem InstalledBy.received (h : InstalledBy environment disk steps l i)
    (halone : LevelAlone environment disk steps)
    (hfile : (start environment disk).neverReopens steps = true) :
    ∃ s : Session, s.stdout = [] ∧
      (∀ place, i.place? = some place →
        s.disk.node? place = some (.file []) ∨ s.disk.node? place = some .device) ∧
      Received s (reached environment disk steps) i (logged environment disk [] steps) := by
  have hlimit := h.hasLimit halone
  obtain ⟨k, hk⟩ := h.exists_output
  obtain ⟨before, index, after, opened, rfl, hnone, hl, hopens⟩ := h
  have hsilent : (reached environment disk before).Silent :=
    silent_run (silent_start environment disk) hnone
  have hset := reached_of_opens hnone hl hopens
  have hby : InstalledBy environment disk (before ++ [.setUp index]) l i :=
    ⟨before, index, [], opened, rfl, hnone, hl, hopens⟩
  refine ⟨reached environment disk (before ++ [.setUp index]), ?_, ?_, ?_⟩
  · rw [hset]
    exact hsilent.stdout
  · intro place hplace
    obtain ⟨path, -, hcreate⟩ := hopens.exists_of_place? hplace
    rw [hset]
    exact (Disk.node?_create hcreate).imp id And.right
  · rw [List.append_cons before _ after] at halone hfile ⊢
    rw [neverReopens_append, Bool.and_eq_true] at hfile
    have hrest : (reached environment disk (before ++ [.setUp index])).neverReopens after = true :=
      hfile.2
    have hrun : reached environment disk (before ++ [.setUp index] ++ after) =
        ((reached environment disk (before ++ [.setUp index])).run after).2 := by
      rw [reached, run_append]
      rfl
    have hreceived := (received_nothing hby.installed
      (consulted_reached environment disk (before ++ [.setUp index]))).run hlimit hk hrest
    rw [hrun, logged_of_installation hnone, ← entriesOfSteps_reached halone hby hk]
    exact hreceived

/-- A log that prints has printed what is logged, and nothing else is printed. -/
theorem stdout_reached (halone : LevelAlone environment disk steps)
    (hfile : (start environment disk).neverReopens steps = true) :
    (reached environment disk steps).stdout =
      if (reached environment disk steps).installed?.any (·.stdout?.isSome) then
        logged environment disk [] steps else [] := by
  cases hi : (reached environment disk steps).installed? with
  | none => exact (silent_run (silent_start environment disk) hi).stdout
  | some i =>
      obtain ⟨l, hby⟩ := installedBy_of_reached hi
      obtain ⟨s, hempty, -, hreceived⟩ := hby.received halone hfile
      have hstdout := hreceived.stdout
      rw [hempty, List.nil_append] at hstdout
      exact hstdout

/-- The file of the log holds what is logged, if it can hold anything. -/
theorem file_reached (halone : LevelAlone environment disk steps)
    (hfile : (start environment disk).neverReopens steps = true)
    (hi : (reached environment disk steps).installed? = some i) {place : Disk.Path}
    (hplace : i.place? = some place) :
    (reached environment disk steps).disk.node? place =
        some (.file (logged environment disk [] steps)) ∨
      (reached environment disk steps).disk.node? place = some .device := by
  obtain ⟨l, hby⟩ := installedBy_of_reached hi
  obtain ⟨s, -, hnode, hreceived⟩ := hby.received halone hfile
  rw [hreceived.file place hplace]
  rcases hnode place hplace with hempty | hdevice
  · rw [hempty]
    exact .inl rfl
  · rw [hdevice]
    exact .inr rfl

end

/-- In every session whose log has a level and no directives, and that does not open the file of the
log a second time, the outputs hold the records that the level lets through, each with the number of
spans around it that were entered when a log of the finest level was installed. A line shows the
spans of its entry and nothing else depends on them. A span that is entered when a logger of the
finest level has installed the log is taken, and each output of the log shows it. Any other span is
shown by none, and is not even taken unless another log was offered by then and refused since one
was installed. Every span stands as it did when it was entered for as long as it is around. Leaving a
span where none is around answers so and changes nothing, and leaving one that is not shown leaves
what is shown as it was. -/
theorem entries_show_spans_of_finest_level (environment : String) (disk : Disk Entry)
    (steps : List Step) (halone : LevelAlone environment disk steps)
    (hfile : (start environment disk).neverReopens steps = true) :
    let s := reached environment disk steps
    let entries := logged environment disk [] steps
    (s.stdout = (if s.installed?.any (·.stdout?.isSome) then entries else []) ∧
      (∀ i place, s.installed? = some i → i.place? = some place →
        s.disk.node? place = some (.file entries) ∨ s.disk.node? place = some .device) ∧
      ∀ q, (∀ i, s.installed? = some i → i.place? ≠ some q) →
        s.disk.node? q = disk.node? q ∨ s.disk.node? q = some (.file [])) ∧
    (∀ (sink : Sink) (time : String) (r : Record), ∃ front back, ∀ spans,
      Entry.text sink time ⟨r, spans⟩ = front ++ sink.spanText spans ++ back) ∧
    (∀ earlier later, steps = earlier ++ .enterSpan :: later →
      ∃ standing, ((reached environment disk earlier).step .enterSpan).1 = .entered standing ∧
        (levelAfter? environment disk earlier = some .trace → standing ≠ .absent ∧
          ∀ l i k, InstalledBy environment disk earlier l i → (i.filter? k).isSome →
            standing.view k = .shown none) ∧
        (levelAfter? environment disk earlier ≠ some .trace →
          (∀ k, standing.view k = .hidden) ∧
            (standing ≠ .absent → OfferedInVain environment disk earlier))) ∧
    (∀ earlier, earlier <+: steps → ∀ level, levelAfter? environment disk earlier = some level ↔
      ∃ l i, InstalledBy environment disk earlier l i ∧ l.level = level) ∧
    (s.spans = ((around [] steps).map (standingAfter environment disk)).reverse ∧
      ∀ i k, s.installed? = some i → (i.filter? k).isSome →
        s.shownSpans k = shownAfter environment disk steps) ∧
    (around [] steps = [] → s.step .exitSpan = (.left false, s)) ∧
    ∀ earlier, (around [] steps).getLast? = some earlier →
      (s.step .exitSpan).1 = .left true ∧
        (levelAfter? environment disk earlier ≠ some .trace →
          ∀ k, (s.step .exitSpan).2.shownSpans k = s.shownSpans k) := by
  intro s entries
  have hspans := spans_reached environment disk steps
  refine ⟨⟨?_, ?_, ?_⟩, ?_, ?_, ?_, ?_, ?_, ?_⟩
  · exact stdout_reached halone hfile
  · intro i place hi hplace
    exact file_reached halone hfile hi hplace
  · intro q hq
    exact run_node? (s := start environment disk) steps hq
  · intro sink time r
    exact Entry.exists_text_eq sink time r
  · rintro earlier later rfl
    have halone' := halone.of_beginning (List.prefix_append earlier _)
    refine ⟨standingAfter environment disk earlier, rfl, fun hfinest => ⟨?_, ?_⟩,
      fun hcoarser => ⟨?_, ?_⟩⟩
    · obtain ⟨l, i, hby, -⟩ := (levelAfter?_eq_some_iff halone').mp hfinest
      obtain ⟨k, hk⟩ := hby.exists_output
      have hview := hby.view_standingAfter halone' hk
      rw [if_pos hfinest] at hview
      intro habsent
      rw [habsent] at hview
      cases hview
    · intro l i k hby hk
      rw [hby.view_standingAfter halone' hk, if_pos hfinest]
    · exact view_standingAfter_of_coarser halone' hcoarser
    · exact offeredInVain_of_taken halone' hcoarser
  · intro earlier hbefore level
    exact levelAfter?_eq_some_iff (halone.of_beginning hbefore)
  · exact ⟨hspans, fun i k hi hk => shownSpans_reached halone hi hk⟩
  · intro hnone
    rw [hnone] at hspans
    exact step_exitSpan_of_nil hspans
  · intro earlier hlast
    obtain ⟨outer, houter⟩ := List.getLast?_eq_some_iff.mp hlast
    rw [houter, List.map_append, List.reverse_append] at hspans
    have hbefore : earlier <+: steps :=
      prefix_of_mem_around (List.mem_of_getLast? hlast)
    refine ⟨step_exitSpan_of_cons hspans, fun hlevel k => shownSpans_exitSpan hspans ?_⟩
    rw [view_standingAfter_of_coarser (halone.of_beginning hbefore) hlevel]
    rfl

/-- Of three spans the first was entered before the log was installed and is never shown. The other
two are, as long as they are around, on both outputs. -/
theorem entries_show_spans_of_finest_log :
    let disk : Disk Entry := .withDirectory ["tmp", "d"]
    let script : List Step := [.enterSpan, .build (.ok ⟨.trace, true, false, some "/tmp/a"⟩),
      .build (.ok ⟨.trace, true, false, none⟩), .setUp 0, .setUp 1, .enterSpan, .enterSpan,
      .note .info "inner", .exitSpan, .call (.report .fsIo "boot"), .exitSpan, .exitSpan, .exitSpan,
      .note .debug "outside"]
    let entries : List Entry := [⟨.note .info "inner", 2⟩,
      ⟨.failure .warn .fsIo Code.fsIo.description "boot", 1⟩, ⟨.note .debug "outside", 0⟩]
    LevelAlone "" disk script ∧ (start "" disk).neverReopens script = true ∧
      (reached "" disk script).stdout = entries ∧
      (reached "" disk script).disk.node? ["tmp", "a"] = some (.file entries) := by
  intro disk script entries
  have halone : LevelAlone "" disk script := fun _ _ _ => .inr (by decide)
  have hfile : (start "" disk).neverReopens script = true := by decide
  obtain ⟨⟨hstdout, hheld, -⟩, -⟩ := entries_show_spans_of_finest_level "" disk script halone hfile
  have hentries : logged "" disk [] script = entries := by decide
  have hany : (reached "" disk script).installed?.any (·.stdout?.isSome) = true := by decide
  rw [hentries] at hstdout hheld
  rw [hany, if_pos rfl] at hstdout
  refine ⟨halone, hfile, hstdout, ?_⟩
  rcases hheld ⟨some (.upTo .trace), some (["tmp", "a"], .upTo .trace)⟩ ["tmp", "a"] (by decide) rfl
    with hfound | hdevice
  · exact hfound
  · exact absurd hdevice (by decide)

/-- Taking a span does not say that the log has the finest level. The second span is entered when a
log of a coarser level is installed and a log of the finest level has been offered in vain, twice: the
first time to raise the ceiling, and again after the process had noted that the log has no interest in
spans. -/
theorem span_taken_by_coarser_log :
    ¬ ∀ (environment : String) (disk : Disk Entry) (steps : List Step),
      LevelAlone environment disk steps → (start environment disk).neverReopens steps = true →
      ∀ earlier later, steps = earlier ++ .enterSpan :: later →
        ∃ standing, ((reached environment disk earlier).step .enterSpan).1 = .entered standing ∧
          (standing ≠ .absent ↔ levelAfter? environment disk earlier = some .trace) := by
  intro h
  let earlier : List Step := [.build (.ok ⟨.info, true, false, none⟩),
    .build (.ok ⟨.trace, true, false, none⟩), .setUp 0, .setUp 1, .enterSpan, .setUp 1]
  obtain ⟨standing, hentered, htaken⟩ := h "" (.withDirectory ["tmp", "d"])
    (earlier ++ [.enterSpan]) (fun _ _ _ => .inr (by decide)) (by decide) earlier [] rfl
  have hstanding : ((reached "" (.withDirectory ["tmp", "d"]) earlier).step .enterSpan).1 =
      .entered (.taken .hidden .hidden) := rfl
  rw [hstanding, Answer.entered.injEq] at hentered
  subst hentered
  exact absurd (htaken.mp (by decide)) (by decide)

end Session

end StatusCodes
