import Mathlib.Data.List.Forall2
import StatusCodes.Proofs.Disk.Litter
import StatusCodes.Proofs.Session.Outputs

/-!
# Refused loggers are hardly missed

A logger that is refused has come some way before. One whose file cannot be created has got
nowhere. One that comes too late has opened its file, which is then empty, and its log was
consulted, which has settled anew what the process asks first. So a session that took such steps is
compared here with one that was spared them. The two have the same log, but the spans around them
may stand differently, and what has come to the outputs may differ for the spans. Their disks differ
besides in litter, at places that a refused logger opened. Nothing is written to such a place, and
this is part of the invariant: the file of the log is not among them, and as long as no log is
installed there are none.

If the filters of the log are steady, then more can be said. Each output shows the same spans in
both sessions, and so it receives the same. This is why there is one relation for both degrees of
likeness: it says under the condition what it cannot say without.

The second half follows the two sessions step by step. A step that both take is answered alike and
leaves them alike. A step that only the first takes is answered with a refusal and adds to the
litter.
-/

namespace StatusCodes.Session

/-! ## Scripts with steps that can be dropped -/

/-- Whether a step sets up the log. -/
def Step.isSetUp : Step → Bool
  | .setUp _ => true
  | _ => false

/-- Whether an answer tells what went wrong. -/
def Answer.isRefusal : Answer → Bool
  | .refused _ => true
  | _ => false

/-- All the steps of a script that says of each step whether it stays. -/
def whole (script : List (Step × Bool)) : List Step :=
  script.map Prod.fst

/-- The steps that stay. -/
def shortened (script : List (Step × Bool)) : List Step :=
  (script.filter Prod.snd).map Prod.fst

/-- Each step with its answer when all of them are taken. -/
def answered (s : Session) (script : List (Step × Bool)) : List ((Step × Bool) × Answer) :=
  script.zip (s.run (whole script)).1

/-- Whether all steps that do not stay set up the log and are refused. -/
def dropsRefused (s : Session) (script : List (Step × Bool)) : Bool :=
  (s.answered script).all fun p => p.1.2 || p.1.1.isSetUp && p.2.isRefusal

/-- The steps that stay, each with its answer when all of them are taken. -/
def expected (s : Session) (script : List (Step × Bool)) : List (Step × Answer) :=
  ((s.answered script).filter fun p => p.1.2).map fun p => (p.1.1, p.2)

/-- The place of the file that a step opens for a logger, if it opens one. -/
def opens? (s : Session) : Step → Option Disk.Path
  | .setUp index => (s.loggers[index]?.bind Logger.file?).bind s.disk.place?
  | _ => none

/-- The places of the files that are opened by the steps that do not stay. -/
def leftBy (s : Session) : List (Step × Bool) → List Disk.Path
  | [] => []
  | (x, stays) :: rest =>
      (if stays then [] else (s.opens? x).toList) ++ (s.step x).2.leftBy rest

/-- If a condition holds, then every output makes the same of both spans. -/
def SeenAlike (steady : Prop) (x y : Span.Standing) : Prop :=
  steady → ∀ k, x.view k = y.view k

/-- A step is answered as expected. It is answered in the same way. Or it sets up the log and is
refused again, where the reason can be another one, since there is no way through an empty file. Or
it enters a span, which may stand differently as far as the condition lets it. -/
def AsExpected (steady : Prop) (p : Step × Answer) (a : Answer) : Prop :=
  a = p.2 ∨ (p.1.isSetUp = true ∧ p.2.isRefusal = true ∧ a.isRefusal = true) ∨
    ∃ x y, p.2 = .entered x ∧ a = .entered y ∧ SeenAlike steady x y

/-! ## Sessions that differ in litter and for spans -/

/-- The records of some entries that a filter admits wherever they are made. -/
def plainly (f : Filter) (entries : List Entry) : List Record :=
  (entries.map Entry.record).filter f.admits

/-- The same of the entries in a file, if one stands at the place. -/
def plainlyAt? (f : Filter) (d : Disk Entry) (place : Disk.Path) : Option (List Record) :=
  match d.node? place with
  | some (.file entries) => some (plainly f entries)
  | _ => none

theorem plainly_append (f : Filter) (a b : List Entry) :
    plainly f (a ++ b) = plainly f a ++ plainly f b := by
  rw [plainly, List.map_append, List.filter_append]
  rfl

theorem plainly_of_not_admits {f : Filter} {e : Entry} (h : f.admits e.record = false) :
    plainly f [e] = [] := by
  simp [plainly, h]

/-- Whether an entry is added that the filter does not admit makes no difference. -/
theorem plainly_ite {f : Filter} {e : Entry} {b : Bool} (h : f.admits e.record = true → b = true)
    (entries : List Entry) :
    plainly f (if b then entries ++ [e] else entries) = plainly f entries ++ plainly f [e] := by
  cases b with
  | true => exact plainly_append f entries [e]
  | false =>
      rw [plainly_of_not_admits (Bool.eq_false_iff.mpr fun hadmits => nomatch h hadmits),
        List.append_nil]
      rfl

theorem plainlyAt?_ite {f : Filter} {e : Entry} {b : Bool} (h : f.admits e.record = true → b = true)
    (d : Disk Entry) (place : Disk.Path) :
    plainlyAt? f (if b then d.append place e else d) place =
      (plainlyAt? f d place).map (· ++ plainly f [e]) := by
  cases b with
  | true =>
      rw [if_pos rfl, plainlyAt?, plainlyAt?, Disk.node?_append]
      cases d.node? place with
      | none => rfl
      | some n =>
          cases n with
          | file entries => exact congrArg some (plainly_append f entries [e])
          | _ => rfl
  | false =>
      rw [plainly_of_not_admits (Bool.eq_false_iff.mpr fun hadmits => nomatch h hadmits)]
      simp

theorem plainlyAt?_congr {f : Filter} {d d' : Disk Entry} {place : Disk.Path}
    (h : d.node? place = d'.node? place) : plainlyAt? f d place = plainlyAt? f d' place := by
  rw [plainlyAt?, plainlyAt?, h]

/-- Where the disks may differ: in litter at these places, and unless the condition holds in the file
of the log. -/
def MayDiffer (steady : Prop) (places : List Disk.Path) (installed? : Option Installation)
    (q : Disk.Path) (content : List Entry) : Prop :=
  q ∈ places ∧ content = [] ∨ ¬ steady ∧ ∃ i, installed? = some i ∧ i.place? = some q

/-- The sessions have the same log and as many spans around them. If the condition holds, then the
outputs see the same of these spans, and the same was printed. The disks differ only where they may.
There is no litter at the file of the log, and without a log there is no difference at all. In any
case the outputs of the log have received the same of what their filters admit wherever it is
made. -/
structure Alike (steady : Prop) (places : List Disk.Path) (s v : Session) : Prop where
  same : ∃ ceiling? interest? spans stdout disk, v =
    { s with
      ceiling? := ceiling?
      interest? := interest?
      spans := spans
      stdout := stdout
      disk := disk }
  around : v.spans.length = s.spans.length
  views : steady → ∀ k, v.spans.map (·.view k) = s.spans.map (·.view k)
  stdout : steady → v.stdout = s.stdout
  disk : s.disk.Littered (MayDiffer steady places s.installed?) v.disk
  silent : s.installed? = none → places = [] ∧ v.stdout = s.stdout
  printed : ∀ i f, s.installed? = some i → i.stdout? = some f →
    plainly f v.stdout = plainly f s.stdout
  written : ∀ i place f, s.installed? = some i → i.file? = some (place, f) →
    plainlyAt? f v.disk place = plainlyAt? f s.disk place
  file : ∀ i place, s.installed? = some i → i.place? = some place → place ∉ places

section

variable {steady : Prop} {places : List Disk.Path} {s v : Session} {i : Installation} {l : Logger}

theorem alike_refl (steady : Prop) (s : Session) : Alike steady [] s s where
  same := ⟨s.ceiling?, s.interest?, s.spans, s.stdout, s.disk, rfl⟩
  around := rfl
  views _ _ := rfl
  stdout _ := rfl
  disk := .refl _ s.disk
  silent _ := ⟨rfl, rfl⟩
  printed _ _ _ _ := rfl
  written _ _ _ _ _ := rfl
  file _ _ _ _ := List.not_mem_nil

theorem Alike.installed? (h : Alike steady places s v) : v.installed? = s.installed? := by
  obtain ⟨ceiling?, interest?, spans, stdout, d, rfl⟩ := h.same
  rfl

theorem Alike.environment (h : Alike steady places s v) : v.environment = s.environment := by
  obtain ⟨ceiling?, interest?, spans, stdout, d, rfl⟩ := h.same
  rfl

/-! ## Records -/

theorem Alike.entry_eq (h : Alike steady places s v) (hsteady : steady) (k : Sink) (r : Record) :
    v.entry k r = s.entry k r := by
  have hcount := congrArg (List.countP Span.View.isShown) (h.views hsteady k)
  rw [List.countP_map, List.countP_map] at hcount
  rw [entry, entry]
  exact congrArg (Entry.mk r) hcount

theorem Alike.isLifted_eq (h : Alike steady places s v) (hsteady : steady) (k : Sink)
    (level : Level) : v.isLifted k level = s.isLifted k level := by
  have hany := congrArg (List.any · (·.lifts level)) (h.views hsteady k)
  rw [List.any_map, List.any_map] at hany
  exact hany

/-- If the condition holds, then the outputs of the log take the same records. -/
theorem Alike.takes_eq (h : Alike steady places s v) (hsteady : steady) (hs : s.Consulted)
    (hv : v.Consulted) (hi : s.installed? = some i) (r : Record) {k : Sink}
    (hk : (i.filter? k).isSome) : v.takes i r k = s.takes i r k := by
  obtain ⟨f, hf⟩ := Option.isSome_iff_exists.mp hk
  rw [hs.takes_eq hi r hf, hv.takes_eq (h.installed?.trans hi) r hf, h.isLifted_eq hsteady]

/-- What is written to the file of the log leaves the disks differing where they may. -/
theorem Alike.littered_deliver (h : Alike steady places s v) (hi : s.installed? = some i)
    (r : Record) {a b : Sink → Bool} (hcongr : steady → v.deliver i b r = v.deliver i a r) :
    (s.deliver i a r).disk.Littered (MayDiffer steady places s.installed?)
      (v.deliver i b r).disk := by
  cases hplace : i.place? with
  | none =>
      rw [deliver_disk_of_none hplace, deliver_disk_of_none hplace]
      exact h.disk
  | some place =>
      by_cases hsteady : steady
      · have hsame : ∀ content, ¬ MayDiffer steady places s.installed? place content := by
          rintro content (⟨hmem, -⟩ | ⟨hnot, -⟩)
          · exact h.file i place hi hplace hmem
          · exact hnot hsteady
        rw [hcongr hsteady, deliver_disk_of_some hplace, deliver_disk_of_some hplace,
          h.entry_eq hsteady]
        split
        · exact h.disk.append hsame _
        · exact h.disk
      · have hmay : ∀ content, MayDiffer steady places s.installed? place content :=
          fun _ => .inr ⟨hsteady, i, hi, hplace⟩
        have hleft : (s.deliver i a r).disk.Littered (MayDiffer steady places s.installed?)
            v.disk := by
          rw [deliver_disk_of_some hplace]
          split
          · exact h.disk.append_left hmay _
          · exact h.disk
        rw [deliver_disk_of_some (s := v) hplace]
        split
        · exact hleft.append_right hmay _
        · exact hleft

/-- The outputs may be handed different records, but the same if the condition holds, and in any case
what their filters admit. -/
theorem Alike.deliver (h : Alike steady places s v) (hi : s.installed? = some i) (r : Record)
    {a b : Sink → Bool} (hab : steady → ∀ k, (i.filter? k).isSome → b k = a k)
    (hadmits : ∀ k f, i.filter? k = some f → f.admits r = true → a k = true ∧ b k = true) :
    Alike steady places (s.deliver i a r) (v.deliver i b r) := by
  have hcongr : steady → v.deliver i b r = v.deliver i a r := fun hsteady =>
    deliver_congr (hab hsteady)
  obtain ⟨ceiling?, interest?, spans, stdout, d, hv⟩ := h.same
  refine ⟨⟨ceiling?, interest?, spans, _, _, by rw [hv]; rfl⟩, h.around, h.views, ?_, ?_,
    (fun hnone => nomatch hi.symm.trans hnone), ?_, ?_, h.file⟩
  · intro hsteady
    rw [hcongr hsteady]
    simp only [Session.deliver, h.stdout hsteady, h.entry_eq hsteady]
  · exact h.littered_deliver hi r hcongr
  · intro j f hj hf
    cases hi.symm.trans hj
    have hboth := hadmits .stdout f hf
    simp only [Session.deliver, hf, Option.isSome_some, Bool.true_and]
    rw [plainly_ite fun hr => (hboth hr).1, plainly_ite fun hr => (hboth hr).2, h.printed i f hi hf]
    rfl
  · intro j place f hj hf
    cases hi.symm.trans hj
    have hplace := Installation.place?_of_file? hf
    have hboth := hadmits .file f (Installation.filter?_of_file? hf)
    rw [deliver_disk_of_some hplace, deliver_disk_of_some hplace,
      plainlyAt?_ite fun hr => (hboth hr).1, plainlyAt?_ite fun hr => (hboth hr).2,
      h.written i place f hi hf]
    rfl

theorem Alike.write (h : Alike steady places s v) (hs : s.Consulted) (hv : v.Consulted)
    (r : Record) : Alike steady places (s.write r) (v.write r) := by
  cases hi : s.installed? with
  | none =>
      rw [write_of_not_installed hi, write_of_not_installed (h.installed?.trans hi)]
      exact h
  | some i =>
      rw [write_of_installed hi, write_of_installed (h.installed?.trans hi)]
      refine h.deliver hi r (fun hsteady k hk => h.takes_eq hsteady hs hv hi r hk) ?_
      intro k f hk hr
      rw [hs.takes_eq hi r hk, hv.takes_eq (h.installed?.trans hi) r hk, hr]
      exact ⟨rfl, rfl⟩

/-! ## Setting up -/

theorem Alike.install (h : Alike steady places s v) (i : Installation) :
    (v.install i).1 = (s.install i).1 ∧ Alike steady places (s.install i).2 (v.install i).2 := by
  obtain ⟨ceiling?, interest?, spans, stdout, d, hv⟩ := h.same
  cases hs : s.installed? with
  | none =>
      obtain ⟨hplaces, hstdout⟩ := h.silent hs
      have hnode : ∀ q, s.disk.node? q = v.disk.node? q := by
        intro q
        rcases h.disk.node q with hsame | ⟨content, -, ⟨hmem, -⟩ | ⟨-, j, hj, -⟩, -⟩
        · exact hsame
        · rw [hplaces] at hmem
          cases hmem
        · cases hs.symm.trans hj
      rw [install_of_not_installed hs, install_of_not_installed (h.installed?.trans hs)]
      refine ⟨rfl, ⟨_, _, spans, stdout, d, by rw [hv]; rfl⟩, h.around, h.views, h.stdout, ?_,
        nofun, ?_, ?_, ?_⟩
      · exact ⟨h.disk.workingDirectory, fun q => .inl (hnode q)⟩
      · intro j f hj hf
        exact congrArg (plainly f) hstdout
      · intro j place f hj hf
        exact plainlyAt?_congr (hnode place).symm
      · intro j place hj hplace
        rw [hplaces]
        exact List.not_mem_nil
  | some j =>
      rw [install_of_installed hs, install_of_installed (h.installed?.trans hs)]
      exact ⟨rfl, ⟨_, _, spans, stdout, d, by rw [hv]; rfl⟩, h.around, h.views, h.stdout, h.disk,
        h.silent, h.printed, h.written, h.file⟩

/-- Outputs that are opened in the first session are opened in the second. A place that was touched
is the same on both disks. -/
theorem Alike.opens (h : Alike steady places s v) {opened : Disk Entry}
    (hopens : s.Opens l i opened) :
    ∃ opened', v.Opens l i opened' ∧
      opened.Littered (MayDiffer steady places s.installed?) opened' ∧
      ∀ q, opened.node? q = opened'.node? q ∨
        opened.node? q = s.disk.node? q ∧ opened'.node? q = v.disk.node? q := by
  cases hopens with
  | stdout hfile hstdout =>
      refine ⟨v.disk, ?_, h.disk, fun q => .inr ⟨rfl, rfl⟩⟩
      rw [← h.environment]
      exact .stdout hfile hstdout
  | @file path place _ hfile hcreate =>
      obtain ⟨hplace, rfl⟩ := Disk.place?_of_create_eq_ok hcreate
      have hplace' := (h.disk.place? path).symm.trans hplace
      refine ⟨v.disk.attempted path, ?_, h.disk.attempted path, h.disk.node?_attempted path⟩
      rw [← h.environment]
      exact .file hfile (Disk.attempted_of_place?_eq_some hplace').1

/-- A logger is set up in both sessions or refused in both. -/
theorem Alike.setUp (h : Alike steady places s v) (l : Logger) :
    ((v.setUp l).1 = (s.setUp l).1 ∨
      ∃ f g, (s.setUp l).1 = .error f ∧ (v.setUp l).1 = .error g) ∧
      Alike steady places (s.setUp l).2 (v.setUp l).2 := by
  rcases s.output_cases l with hout | ⟨path, e, hfile, hcreate⟩ | ⟨i, opened, hopens⟩
  · rw [setUp_of_not_hasOutput hout, setUp_of_not_hasOutput hout]
    exact ⟨.inl rfl, h⟩
  · have hplace := Disk.place?_of_create_eq_error hcreate
    obtain ⟨e', hcreate'⟩ :=
      Disk.create_of_place?_eq_none ((h.disk.place? path).symm.trans hplace)
    rw [setUp_of_create_eq_error hfile hcreate, setUp_of_create_eq_error hfile hcreate']
    exact ⟨.inr ⟨_, _, rfl, rfl⟩, h⟩
  · obtain ⟨opened', hopens', hdisk, hnode⟩ := h.opens hopens
    obtain ⟨ceiling?, interest?, spans, stdout, d, hv⟩ := h.same
    have hopened : Alike steady places { s with disk := opened } { v with disk := opened' } := by
      refine ⟨⟨ceiling?, interest?, spans, stdout, opened', by rw [hv]⟩, h.around, h.views,
        h.stdout, hdisk, h.silent, h.printed, ?_, h.file⟩
      intro j place f hj hf
      rcases hnode place with hsame | ⟨hleft, hright⟩
      · exact (plainlyAt?_congr hsame).symm
      · change plainlyAt? f opened' place = plainlyAt? f opened place
        rw [plainlyAt?_congr hleft, plainlyAt?_congr hright]
        exact h.written j place f hj hf
    rw [setUp_of_opens hopens, setUp_of_opens hopens']
    exact (hopened.install i).imp_left .inl

theorem Opens.place?_eq {opened : Disk Entry} (h : s.Opens l i opened) :
    l.file?.bind s.disk.place? = i.place? := by
  cases h with
  | stdout hfile hstdout => rw [hfile, Option.bind_none, Installation.place?, Option.map_none]
  | file hfile hcreate =>
      rw [hfile, Option.bind_some, (Disk.place?_of_create_eq_ok hcreate).1]
      rfl

/-- Outputs that are opened in one session alone leave litter at most. -/
theorem Opens.littered {opened d : Disk Entry} {may : Disk.Path → List Entry → Prop}
    (h : s.Opens l i opened) (hdisk : s.disk.Littered may d)
    (hmay : ∀ place, i.place? = some place → may place []) : opened.Littered may d := by
  cases h with
  | stdout => exact hdisk
  | file hfile hcreate =>
      obtain ⟨hplace, rfl⟩ := Disk.place?_of_create_eq_ok hcreate
      refine hdisk.attempted_left fun q hq => hmay q ?_
      exact hplace.symm.trans hq

/-- A logger that is refused in the first session alone leaves litter. -/
theorem Alike.refused (h : Alike steady places s v) {index : Nat} {f : Fault}
    (hl : s.loggers[index]? = some l) (hrefused : (s.setUp l).1 = .error f)
    (hreopens : s.reopens (.setUp index) = false) :
    Alike steady (places ++ (s.opens? (.setUp index)).toList) (s.setUp l).2 v := by
  rw [opens?, hl, Option.bind_some]
  rcases s.output_cases l with hout | ⟨path, e, hfile, hcreate⟩ | ⟨i, opened, hopens⟩
  · rw [setUp_of_not_hasOutput hout] at hrefused
    cases hrefused
  · rw [setUp_of_create_eq_error hfile hcreate, hfile, Option.bind_some,
      Disk.place?_of_create_eq_error hcreate, Option.toList_none, List.append_nil]
    exact h
  · cases hj : s.installed? with
    | none =>
        rw [setUp_of_opens_none hopens hj] at hrefused
        cases hrefused
    | some j =>
        have hother : ∀ place, j.place? = some place → i.place? ≠ some place := by
          intro place hplace hopened
          obtain ⟨path, hfile, hcreate⟩ := hopens.exists_of_place? hopened
          exact place?_ne_of_not_reopens hreopens hl hj hfile hcreate hplace
        rw [setUp_of_opens_some hopens hj, hopens.place?_eq]
        obtain ⟨ceiling?, interest?, spans, stdout, d, hv⟩ := h.same
        refine ⟨⟨ceiling?, interest?, spans, stdout, d, by rw [hv]; rfl⟩, h.around, h.views,
          h.stdout, ?_, (fun hnone => nomatch hj.symm.trans hnone), h.printed, ?_, ?_⟩
        · refine hopens.littered (h.disk.mono fun q content => Or.imp_left ?_) ?_
          · exact And.imp_left (List.mem_append_left _)
          · intro place hplace
            exact .inl ⟨List.mem_append_right _ (Option.mem_toList.mpr hplace), rfl⟩
        · intro j' place f hj' hf
          cases hj.symm.trans hj'
          have hkept : opened.node? place = s.disk.node? place :=
            hopens.node?_other (hother place (Installation.place?_of_file? hf))
          exact (h.written j place f hj hf).trans (plainlyAt?_congr hkept).symm
        · intro j' place hj' hplace
          cases hj.symm.trans hj'
          rw [List.mem_append, Option.mem_toList, not_or]
          exact ⟨h.file j place hj hplace, hother place hplace⟩

/-! ## Runs -/

/-- If the condition holds only for logs with steady filters, then a span that both enter is seen
alike. -/
theorem Alike.seenAlike (h : Alike steady places s v) (hs : s.Consulted) (hv : v.Consulted)
    (hsteady : steady → ∀ i, s.installed? = some i → i.IsSteady) :
    SeenAlike steady s.standing v.standing := by
  intro hholds k
  cases hi : s.installed? with
  | none => simp only [standing, hi, h.installed?]
  | some i =>
      have hlog := hsteady hholds i hi
      rw [hs.view_standing hi hlog, hv.view_standing (h.installed?.trans hi) hlog]

/-- A step that both take. -/
theorem Alike.step (h : Alike steady places s v) (hs : s.Consulted) (hv : v.Consulted)
    (hsteady : steady → ∀ i, s.installed? = some i → i.IsSteady) (x : Step) :
    AsExpected steady (x, (s.step x).1) (v.step x).1 ∧
      Alike steady places (s.step x).2 (v.step x).2 := by
  obtain ⟨ceiling?, interest?, spans, stdout, d, hv'⟩ := h.same
  cases x with
  | setUp index =>
      have hloggers : v.loggers = s.loggers := by rw [hv']
      simp only [Session.step, hloggers]
      split
      · exact ⟨.inl rfl, h⟩
      · next l hl =>
          obtain ⟨hanswer | ⟨f, g, hf, hg⟩, hset⟩ := h.setUp l
          · exact ⟨.inl (by rw [hanswer]), hset⟩
          · refine ⟨.inr (.inl ?_), hset⟩
            rw [hf, hg]
            exact ⟨rfl, rfl, rfl⟩
  | call c =>
      have hpolicy : v.policy = s.policy := by rw [hv']
      simp only [Session.step, hpolicy]
      split
      · exact ⟨.inl rfl, h.write hs hv _⟩
      · exact ⟨.inl rfl, h⟩
  | note level text => exact ⟨.inl rfl, h.write hs hv _⟩
  | policy p =>
      cases p with
      | ok q =>
          exact ⟨.inl rfl, ⟨_, _, spans, stdout, d, by rw [hv']; rfl⟩, h.around, h.views, h.stdout,
            h.disk, h.silent, h.printed, h.written, h.file⟩
      | error f => exact ⟨.inl rfl, h⟩
  | build l =>
      cases l with
      | ok l =>
          exact ⟨.inl rfl, ⟨_, _, spans, stdout, d, by rw [hv']; rfl⟩, h.around, h.views, h.stdout,
            h.disk, h.silent, h.printed, h.written, h.file⟩
      | error f => exact ⟨.inl rfl, h⟩
  | enterSpan =>
      have hseen := h.seenAlike hs hv hsteady
      refine ⟨.inr (.inr ⟨_, _, rfl, rfl, hseen⟩), ⟨_, _, _, stdout, d, by rw [hv']; rfl⟩,
        congrArg Nat.succ h.around, ?_, h.stdout, h.disk, h.silent, h.printed, h.written, h.file⟩
      intro hholds k
      exact congrArg₂ List.cons (hseen hholds k).symm (h.views hholds k)
  | exitSpan =>
      have hleft : (v.step .exitSpan).1 = (s.step .exitSpan).1 := by
        have hempty : v.spans.isEmpty = s.spans.isEmpty := by
          rw [Bool.eq_iff_iff, List.isEmpty_iff_length_eq_zero, List.isEmpty_iff_length_eq_zero,
            h.around]
        rw [Session.step, Session.step, hempty]
      refine ⟨.inl hleft, ⟨_, _, _, stdout, d, by rw [hv']; rfl⟩, ?_, ?_, h.stdout, h.disk,
        h.silent, h.printed, h.written, h.file⟩
      · change v.spans.tail.length = s.spans.tail.length
        rw [List.length_tail, List.length_tail, h.around]
      · intro hholds k
        change v.spans.tail.map _ = s.spans.tail.map _
        rw [List.map_tail, List.map_tail, h.views hholds k]

/-- A step that the second session is spared. -/
theorem Alike.drop (h : Alike steady places s v) {x : Step} (hx : x.isSetUp = true)
    (hrefused : (s.step x).1.isRefusal = true) (hreopens : s.reopens x = false) :
    Alike steady (places ++ (s.opens? x).toList) (s.step x).2 v := by
  cases x with
  | setUp index =>
      simp only [Session.step] at hrefused ⊢
      split at hrefused
      · cases hrefused
      · next l hl =>
          cases hset : (s.setUp l).1 with
          | ok _ =>
              rw [hset] at hrefused
              cases hrefused
          | error f => exact h.refused hl hset hreopens
  | _ => cases hx

theorem answered_cons (s : Session) (x : Step) (stays : Bool) (rest : List (Step × Bool)) :
    s.answered ((x, stays) :: rest) =
      ((x, stays), (s.step x).1) :: (s.step x).2.answered rest := rfl

theorem Alike.run (h : Alike steady places s v) (hs : s.Consulted) (hv : v.Consulted)
    {script : List (Step × Bool)}
    (hsteady : steady → ∀ i, (s.run (whole script)).2.installed? = some i → i.IsSteady)
    (hdrops : s.dropsRefused script = true) (hfile : s.neverReopens (whole script) = true) :
    List.Forall₂ (AsExpected steady) (s.expected script) (v.run (shortened script)).1 ∧
      Alike steady (places ++ s.leftBy script) (s.run (whole script)).2
        (v.run (shortened script)).2 := by
  -- Every step that is spared adds to the litter, so the places vary along the script.
  induction script generalizing s v places with
  | nil =>
      rw [leftBy, List.append_nil]
      exact ⟨.nil, h⟩
  | cons p rest ih =>
      obtain ⟨x, stays⟩ := p
      rw [dropsRefused, answered_cons, List.all_cons, Bool.and_eq_true] at hdrops
      rw [whole, List.map_cons, neverReopens, Bool.and_eq_true, Bool.not_eq_true'] at hfile
      cases stays with
      | true =>
          have hnow : steady → ∀ i, s.installed? = some i → i.IsSteady := fun hholds i hi =>
            hsteady hholds i (run_installed hi (x :: whole rest))
          obtain ⟨hanswer, hstep⟩ := h.step hs hv hnow x
          obtain ⟨hanswers, hrun⟩ :=
            ih hstep (hs.step x) (hv.step x) hsteady hdrops.2 hfile.2
          exact ⟨.cons hanswer hanswers, hrun⟩
      | false =>
          obtain ⟨hx, hrefused⟩ := Bool.and_eq_true_iff.mp hdrops.1
          obtain ⟨hanswers, hrun⟩ :=
            ih (h.drop hx hrefused hfile.1) (hs.step x) hv hsteady hdrops.2 hfile.2
          rw [List.append_assoc] at hrun
          exact ⟨hanswers, hrun⟩

/-- What a node of the first disk says of the second, which began as this one. -/
theorem Alike.node? {steps : List Step} {u : Session}
    (h : Alike steady places u (s.run steps).2) (q : Disk.Path) :
    u.disk.node? q = (s.run steps).2.disk.node? q ∨
      (q ∈ places ∧ u.disk.node? q = some (.file []) ∧
        (s.run steps).2.disk.node? q = s.disk.node? q) ∨
      ¬ steady ∧ ∃ i, u.installed? = some i ∧ i.place? = some q := by
  rcases h.disk.node q with hsame | ⟨content, hfile, ⟨hmem, rfl⟩ | hlog, -⟩
  · exact .inl hsame
  · have hother : ∀ i, (s.run steps).2.installed? = some i → i.place? ≠ some q := by
      intro i hi hq
      exact h.file i q (h.installed?.symm.trans hi) hq hmem
    rcases run_node? steps hother with hkept | hempty
    · exact .inr (.inl ⟨hmem, hfile, hkept⟩)
    · exact .inl (hfile.trans hempty.symm)
  · exact .inr (.inr hlog)

/-! ## Files that cannot be created -/

/-- A step that is refused for another reason than a log that is installed has changed nothing. -/
theorem step_of_not_late {x : Step} (hx : x.isSetUp = true)
    (hrefused : (s.step x).1.isRefusal = true) (hlate : (s.step x).1 ≠ .refused alreadyInstalled) :
    (s.step x).2 = s := by
  cases x with
  | setUp index =>
      cases hl : s.loggers[index]? with
      | none => simp only [Session.step, hl]
      | some l =>
          simp only [Session.step, hl] at hrefused hlate ⊢
          rcases s.output_cases l with hout | ⟨path, e, hfile, hcreate⟩ | ⟨i, opened, hopens⟩
          · rw [setUp_of_not_hasOutput hout]
          · rw [setUp_of_create_eq_error hfile hcreate]
          · cases hj : s.installed? with
            | none =>
                rw [setUp_of_opens_none hopens hj] at hrefused
                cases hrefused
            | some j =>
                rw [setUp_of_opens_some hopens hj] at hlate
                exact absurd rfl hlate
  | _ => cases hx

/-- Steps that have changed nothing can be left out without any difference. -/
theorem run_shortened {script : List (Step × Bool)} (hdrops : s.dropsRefused script = true)
    (hlate : ∀ p ∈ s.answered script, p.1.2 = false → p.2 ≠ .refused alreadyInstalled) :
    s.run (shortened script) =
      ((s.expected script).map Prod.snd, (s.run (whole script)).2) := by
  induction script generalizing s with
  | nil => rfl
  | cons p rest ih =>
      obtain ⟨x, stays⟩ := p
      rw [dropsRefused, answered_cons, List.all_cons, Bool.and_eq_true] at hdrops
      rw [answered_cons, List.forall_mem_cons] at hlate
      have hrest := ih hdrops.2 hlate.2
      cases stays with
      | true =>
          change s.run (x :: shortened rest) = _
          rw [run_cons, hrest]
          rfl
      | false =>
          obtain ⟨hx, hrefused⟩ := Bool.and_eq_true_iff.mp hdrops.1
          have hsame : (s.step x).2 = s := step_of_not_late hx hrefused (hlate.1 rfl)
          have hexpected : s.expected ((x, false) :: rest) = (s.step x).2.expected rest := rfl
          have hwhole : (s.run (whole ((x, false) :: rest))).2 =
              ((s.step x).2.run (whole rest)).2 := rfl
          rw [hexpected, hwhole]
          rw [hsame] at hrest ⊢
          exact hrest

end

/-- Attempts to set up the log that are refused can be left out of a session that does not open the
file of the log a second time. All other steps are answered as they were, where a refusal may come
with another reason and a span may stand differently, and the log is the same. Where the disks
differ there is an empty file that was opened by an attempt that was left out, and without the
attempt there is what was there in the beginning.

If the filters of the log are steady, as they are without directives, then each output makes the
same of every span, standard output is the same, and so is the file of the log. For another log the
outputs may differ, but not in the records that their filters admit wherever these are made. If no
attempt is left out that was refused because a log was installed, then there is no difference at
all. A logger whose file cannot be created changes nothing and is no obstacle to the next. -/
theorem refused_loggers_left_out (environment : String) (disk : Disk Entry)
    (script : List (Step × Bool))
    (hdrops : (start environment disk).dropsRefused script = true)
    (hfile : (start environment disk).neverReopens (whole script) = true) :
    let s := start environment disk
    let u := reached environment disk (whole script)
    let v := reached environment disk (shortened script)
    let steady := ∀ i, u.installed? = some i → i.IsSteady
    (List.Forall₂ (AsExpected steady) (s.expected script) (s.run (shortened script)).1 ∧
      v.installed? = u.installed?) ∧
    (∀ q, u.disk.node? q = v.disk.node? q ∨
      (q ∈ s.leftBy script ∧ u.disk.node? q = some (.file []) ∧
        v.disk.node? q = disk.node? q) ∨
      ¬ steady ∧ ∃ i, u.installed? = some i ∧ i.place? = some q) ∧
    (∀ i, u.installed? = some i →
      (∀ f, i.stdout? = some f → plainly f v.stdout = plainly f u.stdout) ∧
      ∀ place f, i.file? = some (place, f) →
        plainlyAt? f v.disk place = plainlyAt? f u.disk place) ∧
    (steady → v.stdout = u.stdout ∧ ∀ q entries, entries ≠ [] →
      (∀ content, disk.node? q = some (.file content) → content = []) →
      (u.disk.node? q = some (.file entries) ↔ v.disk.node? q = some (.file entries))) ∧
    (LevelAlone environment disk (whole script) → steady) ∧
    ((∀ p ∈ s.answered script, p.1.2 = false → p.2 ≠ .refused alreadyInstalled) →
      (s.run (shortened script)).1 = (s.expected script).map Prod.snd ∧ v = u) ∧
    ∀ (t : Session) (l : Logger) (path : String) (e : HostError), l.file? = some path →
      t.disk.create path = .error e →
      t.setUp l = (.error e.fault, t) ∧
      ∀ m : Logger, m.hasOutput = true → t.CanOpen m → t.installed? = none →
        ((t.setUp l).2.setUp m).1 = .ok () := by
  intro s u v steady
  have hstart : s.Consulted := consulted_start environment disk
  obtain ⟨hanswers, halike⟩ := (alike_refl steady s).run hstart hstart (fun h => h) hdrops hfile
  rw [List.nil_append] at halike
  change Alike steady (s.leftBy script) u v at halike
  have hnode := fun q => halike.node? q
  change ∀ q, u.disk.node? q = v.disk.node? q ∨
    (q ∈ s.leftBy script ∧ u.disk.node? q = some (.file []) ∧ v.disk.node? q = disk.node? q) ∨
      ¬ steady ∧ ∃ i, u.installed? = some i ∧ i.place? = some q at hnode
  refine ⟨⟨hanswers, halike.installed?⟩, hnode, ?_, fun hsteady => ⟨halike.stdout hsteady, ?_⟩, ?_,
    ?_, ?_⟩
  · intro i hi
    exact ⟨fun f => halike.printed i f hi, fun place f => halike.written i place f hi⟩
  · intro q entries hentries hbefore
    rcases hnode q with hsame | ⟨-, hlitter, hkept⟩ | ⟨hnot, -⟩
    · rw [hsame]
    · -- At litter both sides are wrong: there are no entries, and there were none before.
      rw [hlitter, hkept]
      constructor
      · intro hempty
        cases hempty
        exact absurd rfl hentries
      · intro hold
        exact absurd (hbefore entries hold) hentries
    · exact absurd hsteady hnot
  · intro halone i hi
    obtain ⟨l, hby⟩ := installedBy_of_reached hi
    exact (hby.hasLimit halone).isSteady
  · intro hlate
    have hrun := run_shortened hdrops hlate
    refine ⟨congrArg Prod.fst hrun, ?_⟩
    change (s.run (shortened script)).2 = _
    rw [hrun]
    rfl
  · intro t l path e hpath hcreate
    have hset := setUp_of_create_eq_error hpath hcreate
    refine ⟨hset, fun m hout hopen hnone => ?_⟩
    rw [hset]
    exact (setUp_eq_ok_iff hout hopen).mpr hnone

/-- A logger without a way to its file and one that came too late are not missed: the session that
was spared them has the same lines and lacks an empty file. -/
theorem two_refused_loggers_left_out :
    let script : List (Step × Bool) := [
      (.build (.ok ⟨.info, true, false, some "/tmp/nowhere/a"⟩), true),
      (.build (.ok ⟨.info, true, false, some "/tmp/a"⟩), true),
      (.build (.ok ⟨.debug, false, false, some "/tmp/b"⟩), true),
      (.setUp 0, false), (.setUp 1, true), (.setUp 2, false), (.note .info "late", true)]
    let u := reached "" (.withDirectory ["tmp", "d"]) (whole script)
    let v := reached "" (.withDirectory ["tmp", "d"]) (shortened script)
    v.stdout = u.stdout ∧ u.stdout = [⟨.note .info "late", 0⟩] ∧
      v.disk.node? ["tmp", "a"] = some (.file [⟨.note .info "late", 0⟩]) ∧
      u.disk.node? ["tmp", "b"] = some (.file []) ∧ v.disk.node? ["tmp", "b"] = none := by
  intro script u v
  obtain ⟨-, -, -, hsteady, hsteadily, -⟩ :=
    refused_loggers_left_out "" (.withDirectory ["tmp", "d"]) script (by decide) (by decide)
  obtain ⟨hstdout, hfiles⟩ := hsteady (hsteadily fun _ _ _ => .inr (by decide))
  refine ⟨hstdout, by decide, ?_, by decide, by decide⟩
  refine (hfiles ["tmp", "a"] _ (List.cons_ne_nil _ _) ?_).mp (by decide)
  intro content hcontent
  have hnothing : (Disk.withDirectory ["tmp", "d"] : Disk Entry).node? ["tmp", "a"] = none := by
    decide
  cases hnothing.symm.trans hcontent

/-- A logger that came too late can be missed. Its level lets the process ask about a span that the
directives of the log name, and the span lifts the log, so that an entry is written inside it.
Without the attempt the span is not taken and nothing is written. -/
theorem span_taken_after_refused_logger :
    let script : List (Step × Bool) := [
      (.build (.ok ⟨.info, true, true, none⟩), true),
      (.build (.ok ⟨.trace, true, false, none⟩), true),
      (.setUp 0, true), (.setUp 1, false), (.enterSpan, true), (.note .error "x", true)]
    let s := start "[kstatus]=info" (.withDirectory ["tmp", "d"])
    let u := reached "[kstatus]=info" (.withDirectory ["tmp", "d"]) (whole script)
    let v := reached "[kstatus]=info" (.withDirectory ["tmp", "d"]) (shortened script)
    s.dropsRefused script = true ∧ s.neverReopens (whole script) = true ∧
      (s.run (whole script)).1[4]? =
        some (.entered (.taken (.shown (some .info)) .hidden)) ∧
      (s.run (shortened script)).1[3]? = some (.entered .absent) ∧
      u.stdout = [⟨.note .error "x", 1⟩] ∧ v.stdout = [] :=
  ⟨by decide, by decide, rfl, rfl, by decide, by decide⟩

end StatusCodes.Session
