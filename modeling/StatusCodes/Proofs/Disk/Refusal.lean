import StatusCodes.Disk
import StatusCodes.Proofs.Fallible

/-!
# Why a file cannot be created

There are three kinds of reasons. The path cannot be handed to the host at all. Or the host follows
the path and finds that no file can come of it, for what the path is or for what stands on its way.
Or the path is good and leads to a directory in which the file would be new, but nothing can be
created there, and then the error number is the directory's own and may be any.
-/

namespace StatusCodes.Disk

variable {α : Type} {d : Disk α} {path name : String} {directory : Path} {errno : Int32}
  {e : HostError}

/-- The errors that come of a path and of what stands on its way. -/
def pathErrors : List HostError :=
  [noEntry, notDirectory, isDirectory, nameTooLong]

/-- The place from which a path is followed. -/
def beginning (d : Disk α) (path : String) : Path :=
  if path.toList.head? = some '/' then [] else d.workingDirectory

/-- The path is good: it can be followed to a directory, and names a file in it. -/
structure LeadsTo (d : Disk α) (path : String) (directory : Path) (name : String) : Prop where
  unbroken : '\x00' ∉ path.toList
  short : path.utf8ByteSize ≤ longestPath
  last : (names path).getLast? = some name
  way : (names path).dropLast.foldlM d.enter (d.beginning path) = .ok directory
  ofFile : path.toList.getLast? ≠ some '/'
  named : ¬ (name = "." ∨ name = "..")
  shortName : name.utf8ByteSize ≤ longestName

/-- The path is good, but the file would be new in a directory in which nothing can be created. -/
def Seals (d : Disk α) (path : String) (errno : Int32) : Prop :=
  ∃ directory name, d.LeadsTo path directory name ∧ d.node? (directory ++ [name]) = none ∧
    d.node? directory = some (.sealed errno)

theorem enter_eq_error (h : d.enter directory name = .error e) : e ∈ pathErrors := by
  rw [enter] at h
  split at h
  · cases h
  · split at h
    · cases h
    · split at h
      · cases h
        decide
      · split at h <;> cases h <;> decide

theorem ne_empty_of_getLast?_names (h : (names path).getLast? = some name) : path ≠ "" := by
  rintro rfl
  cases h

theorem create_of_broken (h : '\x00' ∈ path.toList) : d.create path = .error brokenName :=
  if_pos h

theorem LeadsTo.create (h : d.LeadsTo path directory name) :
    d.create path = d.createIn directory name := by
  have hshort := h.short
  have hway := h.way
  rw [beginning] at hway
  simp only [Disk.create, if_neg h.unbroken, if_neg (ne_empty_of_getLast?_names h.last),
    if_neg (show ¬ longestPath < path.utf8ByteSize by omega), h.last, hway]
  exact if_neg h.ofFile

theorem Seals.create (h : d.Seals path errno) : d.create path = .error (.numbered errno) := by
  obtain ⟨directory, name, hleads, hnew, hsealed⟩ := h
  have hshort := hleads.shortName
  rw [hleads.create, createIn, if_neg hleads.named,
    if_neg (show ¬ longestName < name.utf8ByteSize by omega)]
  simp only [hnew, hsealed]

/-- A directory refuses a file for its name, for what stands there, or because it is sealed. -/
theorem createIn_eq_error (h : d.createIn directory name = .error e) :
    e ∈ pathErrors ∨
      ¬ (name = "." ∨ name = "..") ∧ name.utf8ByteSize ≤ longestName ∧
        d.node? (directory ++ [name]) = none ∧
          ∃ errno, d.node? directory = some (.sealed errno) ∧ e = .numbered errno := by
  rw [createIn, Fallible.ite_error_eq_error_iff] at h
  obtain ⟨-, rfl⟩ | ⟨hnamed, h⟩ := h
  · exact .inl (by decide)
  obtain ⟨-, rfl⟩ | ⟨hshort, h⟩ := Fallible.ite_error_eq_error_iff.mp h
  · exact .inl (by decide)
  simp only at h
  split at h
  · cases h
    exact .inl (by decide)
  · cases h
    exact .inl (by decide)
  · cases h
  · cases h
  · next hnew =>
      split at h
      · next errno hsealed =>
          cases h
          exact .inr ⟨hnamed, Nat.le_of_not_lt hshort, hnew, errno, hsealed, rfl⟩
      · cases h

/-- A file that cannot be created has a path that the host cannot take, or one that leads nowhere,
or is refused by a directory that is sealed. -/
theorem create_eq_error (h : d.create path = .error e) :
    '\x00' ∈ path.toList ∧ e = brokenName ∨
      '\x00' ∉ path.toList ∧
        (e ∈ pathErrors ∨ ∃ errno, d.Seals path errno ∧ e = .numbered errno) := by
  rw [Disk.create, Fallible.ite_error_eq_error_iff] at h
  obtain ⟨hbroken, rfl⟩ | ⟨hunbroken, h⟩ := h
  · exact .inl ⟨hbroken, rfl⟩
  refine .inr ⟨hunbroken, ?_⟩
  obtain ⟨-, rfl⟩ | ⟨-, h⟩ := Fallible.ite_error_eq_error_iff.mp h
  · exact .inl (by decide)
  obtain ⟨-, rfl⟩ | ⟨hshort, h⟩ := Fallible.ite_error_eq_error_iff.mp h
  · exact .inl (by decide)
  simp only at h
  split at h
  · cases h
    exact .inl (by decide)
  · next last hlast =>
      obtain hway | ⟨directory, hway, h⟩ := Fallible.bind_eq_error_iff.mp h
      · obtain ⟨place, name, -, hentered⟩ := Fallible.exists_of_foldlM_eq_error hway
        exact .inl (enter_eq_error hentered)
      obtain ⟨-, rfl⟩ | ⟨hfile, h⟩ := Fallible.ite_error_eq_error_iff.mp h
      · exact .inl (by decide)
      obtain hpath | ⟨hnamed, hname, hnew, errno, hsealed, he⟩ := createIn_eq_error h
      · exact .inl hpath
      have hleads : d.LeadsTo path directory last :=
        ⟨hunbroken, Nat.le_of_not_lt hshort, hlast, hway, hfile, hnamed, hname⟩
      exact .inr ⟨errno, ⟨directory, last, hleads, hnew, hsealed⟩, he⟩

end StatusCodes.Disk
