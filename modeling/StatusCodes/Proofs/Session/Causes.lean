import StatusCodes.Proofs.Disk.Refusal
import StatusCodes.Proofs.Session.Installation

/-!
# What a fault says of the cause

To set up a logger fails in two ways. Its file cannot be created, and then the fault is the error of
the host, or its outputs are opened and a log is installed already. The code of the fault is meant
to tell the one from the other, a code of the file system for the first and an invalid operation for
the second.

It does so for every path that can be handed to the host, as long as the numbers with which
directories refuse new files belong to the file system. A path that the host cannot take is a wrong
parameter, though, and the number for an operation that is not permitted is an invalid operation,
the same as a log that is installed.
-/

namespace StatusCodes

/-- The path of the logger's file holds the character that ends texts on the host. -/
def Logger.HasBrokenName (l : Logger) : Prop :=
  ∃ path, l.file? = some path ∧ '\x00' ∈ path.toList

namespace Session

variable {s : Session} {l : Logger} {e : HostError} {f : Fault}

/-- The file of the logger cannot be created, for this reason. -/
def RefusesFile (s : Session) (l : Logger) (e : HostError) : Prop :=
  ∃ path, l.file? = some path ∧ s.disk.create path = .error e

/-- The file of the logger would be new in a directory in which nothing can be created. -/
def SealsFile (s : Session) (l : Logger) (errno : Int32) : Prop :=
  ∃ path, l.file? = some path ∧ s.disk.Seals path errno

/-! ## Reasons and their codes -/

theorem refusesFile_of_hasBrokenName (h : l.HasBrokenName) :
    s.RefusesFile l Disk.brokenName := by
  obtain ⟨path, hpath, hbroken⟩ := h
  exact ⟨path, hpath, Disk.create_of_broken hbroken⟩

theorem refusesFile_of_sealsFile {errno : Int32} (h : s.SealsFile l errno) :
    s.RefusesFile l (.numbered errno) := by
  obtain ⟨path, hpath, hseals⟩ := h
  exact ⟨path, hpath, hseals.create⟩

theorem RefusesFile.unique {e' : HostError} (h : s.RefusesFile l e) (h' : s.RefusesFile l e') :
    e = e' := by
  obtain ⟨path, hpath, hcreate⟩ := h
  obtain ⟨path', hpath', hcreate'⟩ := h'
  rw [hpath] at hpath'
  cases hpath'
  rw [hcreate] at hcreate'
  exact Except.error.inj hcreate'

theorem exists_refusesFile_iff : (∃ e, s.RefusesFile l e) ↔ ¬ s.CanOpen l := by
  constructor
  · rintro ⟨e, path, hpath, herror⟩ hopen
    obtain ⟨created, hcreate⟩ := hopen path hpath
    rw [herror] at hcreate
    cases hcreate
  · intro hclosed
    cases hfile : l.file? with
    | none => exact absurd (fun path hpath => nomatch hfile.symm.trans hpath) hclosed
    | some path =>
        cases hcreate : s.disk.create path with
        | error e => exact ⟨e, path, hfile, hcreate⟩
        | ok created =>
            refine absurd (fun path' hpath' => ?_) hclosed
            rw [hfile] at hpath'
            cases hpath'
            exact ⟨created, hcreate⟩

theorem RefusesFile.cases (h : s.RefusesFile l e) :
    l.HasBrokenName ∧ e = Disk.brokenName ∨
      ¬ l.HasBrokenName ∧
        (e ∈ Disk.pathErrors ∨ ∃ errno, s.SealsFile l errno ∧ e = .numbered errno) := by
  obtain ⟨path, hpath, hcreate⟩ := h
  have hbroken : l.HasBrokenName ↔ '\x00' ∈ path.toList := by
    simp only [Logger.HasBrokenName, hpath, Option.some.injEq, exists_eq_left']
  rw [hbroken]
  rcases Disk.create_eq_error hcreate with hname | ⟨hname, hpathError | ⟨errno, hseals, he⟩⟩
  · exact .inl hname
  · exact .inr ⟨hname, .inl hpathError⟩
  · exact .inr ⟨hname, .inr ⟨errno, ⟨path, hpath, hseals⟩, he⟩⟩

theorem code_of_mem_pathErrors (h : e ∈ Disk.pathErrors) :
    e.code.category = some .filesystem := by
  have hall : ∀ e ∈ Disk.pathErrors, e.code.category = some .filesystem := by decide
  exact hall e h

/-- What is refused by the file system, and what by something else. -/
theorem RefusesFile.category_eq_iff (h : s.RefusesFile l e) :
    e.code.category = some .filesystem ↔
      ¬ l.HasBrokenName ∧
        ∀ errno, s.SealsFile l errno →
          (HostError.numbered errno).code.category = some .filesystem := by
  constructor
  · intro hcategory
    rcases h.cases with ⟨-, rfl⟩ | ⟨hname, -⟩
    · cases hcategory
    · refine ⟨hname, fun errno hseals => ?_⟩
      rw [(refusesFile_of_sealsFile hseals).unique h]
      exact hcategory
  · rintro ⟨hname, hsealed⟩
    rcases h.cases with ⟨hbroken, -⟩ | ⟨-, hpathError | ⟨errno, hseals, rfl⟩⟩
    · exact absurd hbroken hname
    · exact code_of_mem_pathErrors hpathError
    · exact hsealed errno hseals

theorem RefusesFile.code_eq_sysInvalidOp_iff (h : s.RefusesFile l e) :
    e.code = .sysInvalidOp ↔
      ∃ errno, s.SealsFile l errno ∧ (HostError.numbered errno).code = .sysInvalidOp := by
  constructor
  · intro hcode
    rcases h.cases with ⟨-, rfl⟩ | ⟨-, hpathError | ⟨errno, hseals, rfl⟩⟩
    · cases hcode
    · have hcategory := code_of_mem_pathErrors hpathError
      rw [hcode] at hcategory
      cases hcategory
    · exact ⟨errno, hseals, hcode⟩
  · rintro ⟨errno, hseals, hcode⟩
    rw [h.unique (refusesFile_of_sealsFile hseals), hcode]

/-! ## The outcome of setting up -/

theorem setUp_of_refusesFile (h : s.RefusesFile l e) : (s.setUp l).1 = .error e.fault := by
  obtain ⟨path, hpath, hcreate⟩ := h
  rw [setUp_of_create_eq_error hpath hcreate]

/-- There are two ways to fail, and each has its fault. -/
theorem setUp_eq_error_iff :
    (s.setUp l).1 = .error f ↔
      (∃ e, s.RefusesFile l e ∧ f = e.fault) ∨
        s.CanOpen l ∧ l.hasOutput = true ∧ s.installed? ≠ none ∧ f = alreadyInstalled := by
  by_cases hopen : s.CanOpen l
  · have hnone : ¬ ∃ e, s.RefusesFile l e ∧ f = e.fault := by
      rintro ⟨e, he, -⟩
      exact exists_refusesFile_iff.mp ⟨e, he⟩ hopen
    rw [or_iff_right hnone]
    cases hout : l.hasOutput with
    | false => simp [setUp_of_not_hasOutput hout]
    | true =>
        obtain ⟨i, disk, hopens⟩ := opens_of_canOpen hout hopen
        cases hs : s.installed? with
        | none => simp [setUp_of_opens_none hopens hs]
        | some j => simp [setUp_of_opens_some hopens hs, hopen, eq_comm]
  · obtain ⟨e, he⟩ := exists_refusesFile_iff.mpr hopen
    rw [setUp_of_refusesFile he, Except.error.injEq]
    constructor
    · rintro rfl
      exact .inl ⟨e, he, rfl⟩
    · rintro (⟨e', he', rfl⟩ | ⟨hcan, -⟩)
      · rw [he.unique he']
      · exact absurd hcan hopen

/-- To set up a logger fails with a code of the file system exactly if its file cannot be created,
its path can be handed to the host, and no directory refuses the file with a number that belongs
elsewhere. A path that the host cannot take is a wrong parameter, whatever else is the matter. An
invalid operation is it exactly if the outputs can be opened and a log is installed, or if a
directory refuses the file with a number that has this code. There are no other faults than the
error of the host and the one for a log that is installed. -/
theorem setUp_fault_by_cause (s : Session) (l : Logger) :
    ((∃ f, (s.setUp l).1 = .error f ∧ f.category = some .filesystem) ↔
      ¬ s.CanOpen l ∧ ¬ l.HasBrokenName ∧
        ∀ errno, s.SealsFile l errno →
          (HostError.numbered errno).code.category = some .filesystem) ∧
    (l.HasBrokenName → ∃ f, (s.setUp l).1 = .error f ∧ f.code = .genInvalidParam) ∧
    ((∃ f, (s.setUp l).1 = .error f ∧ f.code = .sysInvalidOp) ↔
      s.CanOpen l ∧ l.hasOutput = true ∧ s.installed? ≠ none ∨
        ∃ errno, s.SealsFile l errno ∧ (HostError.numbered errno).code = .sysInvalidOp) ∧
    ∀ f, (s.setUp l).1 = .error f ↔
      (∃ e, s.RefusesFile l e ∧ f = e.fault) ∨
        s.CanOpen l ∧ l.hasOutput = true ∧ s.installed? ≠ none ∧ f = alreadyInstalled := by
  refine ⟨?_, ?_, ?_, fun f => setUp_eq_error_iff⟩
  · constructor
    · rintro ⟨f, hf, hcategory⟩
      rcases setUp_eq_error_iff.mp hf with ⟨e, he, rfl⟩ | ⟨-, -, -, rfl⟩
      · exact ⟨exists_refusesFile_iff.mp ⟨e, he⟩, he.category_eq_iff.mp hcategory⟩
      · cases hcategory
    · rintro ⟨hclosed, hreason⟩
      obtain ⟨e, he⟩ := exists_refusesFile_iff.mpr hclosed
      exact ⟨e.fault, setUp_of_refusesFile he, he.category_eq_iff.mpr hreason⟩
  · intro hname
    exact ⟨_, setUp_of_refusesFile (refusesFile_of_hasBrokenName hname), rfl⟩
  · constructor
    · rintro ⟨f, hf, hcode⟩
      rcases setUp_eq_error_iff.mp hf with ⟨e, he, rfl⟩ | ⟨hopen, hout, hs, -⟩
      · exact .inr (he.code_eq_sysInvalidOp_iff.mp hcode)
      · exact .inl ⟨hopen, hout, hs⟩
    · rintro (⟨hopen, hout, hs⟩ | ⟨errno, hseals, hcode⟩)
      · exact ⟨_, setUp_eq_error_iff.mpr (.inr ⟨hopen, hout, hs, rfl⟩), rfl⟩
      · exact ⟨_, setUp_of_refusesFile (refusesFile_of_sealsFile hseals), hcode⟩

/-- A directory that does not permit new files is taken for a log that is installed. -/
example :
    let s := start "" ⟨[(["locked"], .sealed 1)], []⟩
    s.installed? = none ∧
      ∃ f, (s.setUp ⟨.info, true, false, some "/locked/a"⟩).1 = .error f ∧
        f.code = .sysInvalidOp :=
  ⟨rfl, _, rfl, rfl⟩

/-- A file that cannot be created for its name is a wrong parameter and no matter of the file
system, though nothing else is wrong. -/
theorem broken_name_is_wrong_parameter :
    ¬ ∀ (s : Session) (l : Logger),
      ((∃ f, (s.setUp l).1 = .error f ∧ f.category = some .filesystem) ↔ ¬ s.CanOpen l) ∧
      ((∃ f, (s.setUp l).1 = .error f ∧ f.code = .sysInvalidOp) ↔
        s.CanOpen l ∧ l.hasOutput = true ∧ s.installed? ≠ none) ∧
      ∀ f, (s.setUp l).1 = .error f →
        f.category = some .filesystem ∨ f.code = .sysInvalidOp := by
  intro h
  obtain ⟨-, -, hno⟩ :=
    h (start "" (.withDirectory ["tmp", "d"])) ⟨.info, false, false, some "/tmp/a\x00b"⟩
  rcases hno Disk.brokenName.fault rfl with hcategory | hcode
  · cases hcategory
  · cases hcode

end Session

end StatusCodes
