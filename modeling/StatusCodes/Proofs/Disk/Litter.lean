import StatusCodes.Proofs.Disk

/-!
# Disks that differ in files

A file more, or other content in a file, changes little on a disk. Paths lead through directories,
which files are not, and a place that has a file takes a file as well as it did before. So on a disk
with such differences files can be created under the same paths and at the same places as without,
and what is done to both disks leaves them different in nothing else. What the attempts that fail
are told may differ, since a way through a file is refused in other words than a way that leads
nowhere.

Which files may differ, and what may be in them, is for others to say. A file that was created on
one disk alone differs when it is empty, and so is mere litter. A file that is written to on one
disk alone differs whatever is in it.
-/

namespace StatusCodes.Disk

variable {α : Type} {d d' : Disk α} {may : Path → List α → Prop}

/-- The place at which a file is created under a path, if one can be. -/
def place? (d : Disk α) (path : String) : Option Path :=
  (d.create path).toOption.map Prod.fst

/-- The disk after the attempt to create a file. -/
def attempted (d : Disk α) (path : String) : Disk α :=
  match d.create path with
  | .ok (_, d) => d
  | .error _ => d

/-- The first disk is the second but for some places, at which it has a file that may be there and
the second takes one. -/
structure Littered (may : Path → List α → Prop) (d d' : Disk α) : Prop where
  workingDirectory : d.workingDirectory = d'.workingDirectory
  node : ∀ q, d.node? q = d'.node? q ∨
    ∃ content, d.node? q = some (.file content) ∧ may q content ∧ d'.Takes q

theorem Littered.refl (may : Path → List α → Prop) (d : Disk α) : Littered may d d :=
  ⟨rfl, fun _ => .inl rfl⟩

theorem Littered.mono {might : Path → List α → Prop} (h : Littered may d d')
    (himp : ∀ q content, may q content → might q content) : Littered might d d' := by
  refine ⟨h.workingDirectory, fun q => (h.node q).imp_right ?_⟩
  rintro ⟨content, hfile, hmay, htakes⟩
  exact ⟨content, hfile, himp q content hmay, htakes⟩

/-! ## Creating on both -/

theorem Littered.sealed_iff (h : Littered may d d') (q : Path) (errno : Int32) :
    d.node? q = some (.sealed errno) ↔ d'.node? q = some (.sealed errno) := by
  rcases h.node q with heq | ⟨held, hfile, -, ⟨content, hcontent⟩ | ⟨hnone, -⟩⟩
  · rw [heq]
  · simp [hfile, hcontent]
  · simp [hfile, hnone]

theorem Littered.takes (h : Littered may d d') {q : Path} (hq : d.Takes q) : d'.Takes q := by
  rcases h.node q with heq | ⟨-, -, -, htakes⟩
  · rcases hq with ⟨content, hcontent⟩ | ⟨hnone, hparent⟩
    · exact .inl ⟨content, heq ▸ hcontent⟩
    · refine .inr ⟨heq ▸ hnone, fun errno hsealed => ?_⟩
      exact hparent errno ((h.sealed_iff _ errno).mpr hsealed)
  · exact htakes

theorem Littered.enter (h : Littered may d d') (place : Path) (name : String) :
    (d.enter place name).toOption = (d'.enter place name).toOption := by
  rcases h.node (place ++ [name]) with heq | ⟨held, hfile, -, ⟨content, hcontent⟩ | ⟨hnone, -⟩⟩
  · simp only [Disk.enter, heq]
  · simp only [Disk.enter, hfile, hcontent]
  · simp only [Disk.enter, hfile, hnone]
    split
    · rfl
    · split
      · rfl
      · split <;> rfl

theorem Littered.createIn (h : Littered may d d') (directory : Path) (name : String) :
    (d.createIn directory name).toOption.map Prod.fst =
      (d'.createIn directory name).toOption.map Prod.fst := by
  simp only [Disk.createIn]
  split
  · rfl
  · split
    · rfl
    · rcases h.node (directory ++ [name]) with heq | ⟨held, hfile, -, htakes⟩
      · rw [heq]
        cases d'.node? (directory ++ [name]) with
        | some n => cases n <;> rfl
        | none =>
            rcases h.node directory with hsame | ⟨held, hfile, -, ⟨content, hcontent⟩ | ⟨hnone, -⟩⟩
            · simp only [hsame]
              split <;> rfl
            · simp only [hfile, hcontent]
              rfl
            · simp only [hfile, hnone]
              rfl
      · rcases htakes with ⟨content, hcontent⟩ | ⟨hnone, hopen⟩
        · simp only [hfile, hcontent]
          rfl
        · -- The directory is not sealed, and `hopen` has to say so for the same path.
          rw [List.dropLast_concat] at hopen
          simp only [hfile, hnone]
          rfl

theorem Littered.place? (h : Littered may d d') (path : String) :
    d.place? path = d'.place? path := by
  simp only [Disk.place?, Disk.create, h.workingDirectory]
  split
  · rfl
  · split
    · rfl
    · split
      · rfl
      · split
        · rfl
        · next last hlast =>
            -- Both ways lead to the same directory or nowhere, so one directory has to be compared.
            have hway := Fallible.toOption_foldlM h.enter
              (if path.toList.head? = some '/' then [] else d'.workingDirectory)
              (names path).dropLast
            rw [Fallible.toOption_bind, Fallible.toOption_bind, hway, Option.map_bind,
              Option.map_bind]
            congr 1
            funext place
            simp only [Function.comp_apply]
            split
            · rfl
            · exact h.createIn place last

theorem create_of_place?_eq_none {path : String} (h : d.place? path = none) :
    ∃ e, d.create path = .error e := by
  cases hcreate : d.create path with
  | error e => exact ⟨e, rfl⟩
  | ok created =>
      rw [Disk.place?, hcreate] at h
      cases h

theorem place?_of_create_eq_error {path : String} {e : HostError} (h : d.create path = .error e) :
    d.place? path = none := by
  rw [Disk.place?, h]
  rfl

theorem attempted_of_place?_eq_none {path : String} (h : d.place? path = none) :
    d.attempted path = d := by
  obtain ⟨e, hcreate⟩ := create_of_place?_eq_none h
  rw [Disk.attempted, hcreate]

/-- Under a path that leads to a place an empty file comes there, or what is a device stays. -/
theorem attempted_of_place?_eq_some {path : String} {place : Path}
    (h : d.place? path = some place) :
    d.create path = .ok (place, d.attempted path) ∧ place ≠ [] ∧
      (d.node? place = some .device ∧ d.attempted path = d ∨
        d.Takes place ∧ d.attempted path = d.put place (.file [])) := by
  have hcreate : d.create path = .ok (place, d.attempted path) := by
    rw [Disk.attempted]
    cases hcreated : d.create path with
    | error e =>
        rw [Disk.place?, hcreated] at h
        cases h
    | ok created =>
        rw [Disk.place?, hcreated] at h
        cases h
        rfl
  exact ⟨hcreate, create_eq_ok hcreate⟩

theorem place?_of_create_eq_ok {path : String} {place : Path} (h : d.create path = .ok (place, d')) :
    d.place? path = some place ∧ d.attempted path = d' := by
  rw [Disk.place?, Disk.attempted, h]
  exact ⟨rfl, rfl⟩

theorem Takes.put {q place : Path} (h : d.Takes q) (hplace : place ≠ []) (content : List α) :
    (d.put place (.file content)).Takes q := by
  by_cases hq : q = place
  · exact .inl ⟨content, by rw [node?_put hplace, if_pos hq]⟩
  · rcases h with ⟨old, hold⟩ | ⟨hnone, hparent⟩
    · exact .inl ⟨old, by rw [node?_put hplace, if_neg hq, hold]⟩
    · refine .inr ⟨by rw [node?_put hplace, if_neg hq, hnone], fun errno => ?_⟩
      rw [node?_put hplace]
      split
      · simp
      · exact hparent errno

theorem Littered.put (h : Littered may d d') {place : Path} (hplace : place ≠ [])
    (content : List α) :
    Littered may (d.put place (.file content)) (d'.put place (.file content)) := by
  refine ⟨h.workingDirectory, fun q => ?_⟩
  rw [node?_put hplace, node?_put hplace]
  by_cases hq : q = place
  · exact .inl (by rw [if_pos hq, if_pos hq])
  · rw [if_neg hq, if_neg hq]
    rcases h.node q with heq | ⟨held, hfile, hmay, htakes⟩
    · exact .inl heq
    · exact .inr ⟨held, hfile, hmay, htakes.put hplace content⟩

theorem Littered.node?_device (h : Littered may d d') {q : Path}
    (hq : d.node? q = some .device) :
    d'.node? q = some .device := by
  rcases h.node q with heq | ⟨content, hfile, -⟩
  · rw [← heq, hq]
  · rw [hq] at hfile
    cases hfile

theorem Takes.node?_ne_device {q : Path} (h : d.Takes q) : d.node? q ≠ some .device := by
  rcases h with ⟨content, hfile⟩ | ⟨hnone, -⟩
  · simp [hfile]
  · simp [hnone]

/-- An attempt on both changes neither or leaves an empty file on both at one place. -/
theorem Littered.attempted_cases (h : Littered may d d') (path : String) :
    d.attempted path = d ∧ d'.attempted path = d' ∨
      ∃ place, place ≠ [] ∧ d.attempted path = d.put place (.file []) ∧
        d'.attempted path = d'.put place (.file []) := by
  cases hplace : d.place? path with
  | none =>
      exact .inl ⟨attempted_of_place?_eq_none hplace,
        attempted_of_place?_eq_none ((h.place? path).symm.trans hplace)⟩
  | some place =>
      obtain ⟨-, hroot, hleft⟩ := attempted_of_place?_eq_some hplace
      obtain ⟨-, -, hright⟩ := attempted_of_place?_eq_some ((h.place? path).symm.trans hplace)
      -- What is a device on one of the disks takes no file on the other.
      rcases hleft with ⟨hdevice, hleft⟩ | ⟨htakes, hleft⟩
      · rcases hright with ⟨-, hright⟩ | ⟨htakes, -⟩
        · exact .inl ⟨hleft, hright⟩
        · exact absurd (h.node?_device hdevice) htakes.node?_ne_device
      · rcases hright with ⟨hdevice, -⟩ | ⟨-, hright⟩
        · exact absurd hdevice (h.takes htakes).node?_ne_device
        · exact .inr ⟨place, hroot, hleft, hright⟩

theorem Littered.attempted (h : Littered may d d') (path : String) :
    Littered may (d.attempted path) (d'.attempted path) := by
  rcases h.attempted_cases path with ⟨hleft, hright⟩ | ⟨place, hroot, hleft, hright⟩
  · rw [hleft, hright]
    exact h
  · rw [hleft, hright]
    exact h.put hroot []

/-- Where an attempt on both has changed anything it has left the same on both. -/
theorem Littered.node?_attempted (h : Littered may d d') (path : String) (q : Path) :
    (d.attempted path).node? q = (d'.attempted path).node? q ∨
      (d.attempted path).node? q = d.node? q ∧ (d'.attempted path).node? q = d'.node? q := by
  rcases h.attempted_cases path with ⟨hleft, hright⟩ | ⟨place, hroot, hleft, hright⟩
  · rw [hleft, hright]
    exact .inr ⟨rfl, rfl⟩
  · rw [hleft, hright, node?_put hroot, node?_put hroot]
    by_cases hq : q = place
    · exact .inl (by rw [if_pos hq, if_pos hq])
    · exact .inr ⟨if_neg hq, if_neg hq⟩

/-- An attempt on the first disk alone leaves litter at the place that the path leads to. -/
theorem Littered.attempted_left (h : Littered may d d') {path : String}
    (hmay : ∀ place, d.place? path = some place → may place []) :
    Littered may (d.attempted path) d' := by
  cases hplace : d.place? path with
  | none =>
      rw [attempted_of_place?_eq_none hplace]
      exact h
  | some place =>
      obtain ⟨-, hroot, ⟨-, hleft⟩ | ⟨htakes, hleft⟩⟩ := attempted_of_place?_eq_some hplace
      · rw [hleft]
        exact h
      · rw [hleft]
        refine ⟨h.workingDirectory, fun q => ?_⟩
        rw [node?_put hroot]
        split
        · next hq =>
            subst hq
            exact .inr ⟨[], rfl, hmay q hplace, h.takes htakes⟩
        · exact h.node q

/-! ## Adding -/

theorem append_cases (d : Disk α) (place : Path) (x : α) :
    d.append place x = d ∨ ∃ content, d.node? place = some (.file content) ∧
      d.append place x = d.put place (.file (content ++ [x])) := by
  rw [append]
  split
  · next content hfile => exact .inr ⟨content, hfile, rfl⟩
  · exact .inl rfl

theorem workingDirectory_append (d : Disk α) (place : Path) (x : α) :
    (d.append place x).workingDirectory = d.workingDirectory := by
  rcases d.append_cases place x with hsame | ⟨content, -, hput⟩
  · rw [hsame]
  · rw [hput]
    rfl

theorem Takes.append {q : Path} (h : d.Takes q) (place : Path) (x : α) :
    (d.append place x).Takes q := by
  rcases d.append_cases place x with hsame | ⟨content, hfile, hput⟩
  · rw [hsame]
    exact h
  · rw [hput]
    exact h.put (ne_root_of_file hfile) _

/-- What is added to both at a place where they may not differ. -/
theorem Littered.append (h : Littered may d d') {place : Path}
    (hsame : ∀ content, ¬ may place content) (x : α) :
    Littered may (d.append place x) (d'.append place x) := by
  refine ⟨?_, fun q => ?_⟩
  · rw [workingDirectory_append, workingDirectory_append, h.workingDirectory]
  · by_cases hq : q = place
    · subst hq
      rcases h.node q with heq | ⟨content, -, hmay, -⟩
      · exact .inl (by rw [node?_append, node?_append, heq])
      · exact absurd hmay (hsame content)
    · rw [node?_append_other x hq, node?_append_other x hq]
      refine (h.node q).imp_right ?_
      rintro ⟨content, hfile, hmay, htakes⟩
      exact ⟨content, hfile, hmay, htakes.append place x⟩

/-- What is added to the first alone at a place where they may differ. -/
theorem Littered.append_left (h : Littered may d d') {place : Path}
    (hmay : ∀ content, may place content) (x : α) : Littered may (d.append place x) d' := by
  rcases d.append_cases place x with hsame | ⟨content, hfile, hput⟩
  · rw [hsame]
    exact h
  · rw [hput]
    refine ⟨h.workingDirectory, fun q => ?_⟩
    rw [node?_put (ne_root_of_file hfile)]
    split
    · next hq =>
        subst hq
        exact .inr ⟨_, rfl, hmay _, h.takes (.inl ⟨content, hfile⟩)⟩
    · exact h.node q

/-- What is added to the second alone at a place where they may differ. -/
theorem Littered.append_right (h : Littered may d d') {place : Path}
    (hmay : ∀ content, may place content) (x : α) : Littered may d (d'.append place x) := by
  rcases d'.append_cases place x with hsame | ⟨content', hfile', -⟩
  · rw [hsame]
    exact h
  · refine ⟨h.workingDirectory.trans (workingDirectory_append d' place x).symm, fun q => ?_⟩
    by_cases hq : q = place
    · subst hq
      obtain ⟨content, hfile⟩ : ∃ content, d.node? q = some (.file content) := by
        rcases h.node q with heq | ⟨content, hfile, -⟩
        · exact ⟨content', heq.trans hfile'⟩
        · exact ⟨content, hfile⟩
      have htakes : d'.Takes q := .inl ⟨content', hfile'⟩
      exact .inr ⟨content, hfile, hmay content, htakes.append q x⟩
    · rw [node?_append_other x hq]
      refine (h.node q).imp_right ?_
      rintro ⟨content, hfile, hallowed, htakes⟩
      exact ⟨content, hfile, hallowed, htakes.append place x⟩

end StatusCodes.Disk
