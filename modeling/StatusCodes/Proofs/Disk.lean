import Mathlib.Logic.Basic
import StatusCodes.Disk
import StatusCodes.Proofs.Fallible

/-!
# What creating and adding leave alone

Creating a file touches one place of a disk. What stands there afterwards is an empty file, unless
a device stood there, which is left as it is. Adding touches the place it is given and only if a
file stands there, so what a place holds after any number of additions is what it held before with
the additions behind it. Every other place is as before.

A place that a file was created in is never the root, since it ends in the last name of its path.
-/

namespace StatusCodes

/-- The node after something was written to it. -/
def Disk.Node.receive {α : Type} (n : Disk.Node α) (xs : List α) : Disk.Node α :=
  match n with
  | .file content => .file (content ++ xs)
  | n => n

namespace Disk

variable {α : Type} {d d' : Disk α} {path : String} {place q : Path}

@[simp] theorem Node.receive_nil (n : Node α) : n.receive [] = n := by
  cases n <;> simp [Node.receive]

theorem Node.receive_append (n : Node α) (xs ys : List α) :
    n.receive (xs ++ ys) = (n.receive xs).receive ys := by
  cases n <;> simp [Node.receive]

theorem node?_put (hplace : place ≠ []) (n : Node α) :
    (d.put place n).node? q = if q = place then some n else d.node? q := by
  -- Looking up compares paths name by name, and putting compares them as wholes.
  have hsame : (List.instBEq : BEq Path) = instBEqOfDecidableEq := lawful_beq_subsingleton _ _
  rw [node?, node?, put, hsame, Association.lookup_put]
  by_cases hq : q = []
  · subst hq
    rw [if_pos rfl, if_neg (Ne.symm hplace), if_pos rfl]
  · rw [if_neg hq, if_neg hq]

/-! ## Creating -/

/-- A file stands at the place, or nothing does and its directory takes new files. -/
def Takes (d : Disk α) (place : Path) : Prop :=
  (∃ content, d.node? place = some (.file content)) ∨
    d.node? place = none ∧ ∀ errno, d.node? place.dropLast ≠ some (.sealed errno)

theorem createIn_eq_ok {directory : Path} {name : String}
    (h : d.createIn directory name = .ok (place, d')) :
    place ≠ [] ∧ (d.node? place = some .device ∧ d' = d ∨
      d.Takes place ∧ d' = d.put place (.file [])) := by
  have hroot : directory ++ [name] ≠ [] := by simp
  simp only [createIn] at h
  split at h
  · cases h
  · split at h
    · cases h
    · split at h
      · cases h
      · cases h
      · next hdevice =>
          cases h
          exact ⟨hroot, .inl ⟨hdevice, rfl⟩⟩
      · next content hfile =>
          cases h
          exact ⟨hroot, .inr ⟨.inl ⟨content, hfile⟩, rfl⟩⟩
      · next hnone =>
          split at h
          · cases h
          · next hopen =>
              cases h
              refine ⟨hroot, .inr ⟨.inr ⟨hnone, ?_⟩, rfl⟩⟩
              rw [List.dropLast_concat]
              exact hopen

theorem create_eq_ok (h : d.create path = .ok (place, d')) :
    place ≠ [] ∧ (d.node? place = some .device ∧ d' = d ∨
      d.Takes place ∧ d' = d.put place (.file [])) := by
  simp only [create] at h
  split at h
  · cases h
  · split at h
    · cases h
    · split at h
      · cases h
      · split at h
        · cases h
        · obtain ⟨directory, -, h⟩ := Fallible.bind_eq_ok_iff.mp h
          split at h
          · cases h
          · exact createIn_eq_ok h

theorem node?_create_other (h : d.create path = .ok (place, d')) (hq : q ≠ place) :
    d'.node? q = d.node? q := by
  obtain ⟨hplace, ⟨-, rfl⟩ | ⟨-, rfl⟩⟩ := create_eq_ok h
  · rfl
  · rw [node?_put hplace, if_neg hq]

theorem node?_create (h : d.create path = .ok (place, d')) :
    d'.node? place = some (.file []) ∨
      d.node? place = some .device ∧ d'.node? place = some .device := by
  obtain ⟨hplace, ⟨hdevice, rfl⟩ | ⟨-, rfl⟩⟩ := create_eq_ok h
  · exact .inr ⟨hdevice, hdevice⟩
  · left
    rw [node?_put hplace, if_pos rfl]

/-- Nothing but emptiness comes to a disk when a file is created on it. -/
theorem node?_create_or (h : d.create path = .ok (place, d')) (q : Path) :
    d'.node? q = d.node? q ∨ d'.node? q = some (.file []) := by
  obtain ⟨hplace, ⟨-, rfl⟩ | ⟨-, rfl⟩⟩ := create_eq_ok h
  · exact .inl rfl
  · rw [node?_put hplace]
    split
    · exact .inr rfl
    · exact .inl rfl

/-! ## Adding -/

theorem ne_root_of_file {content : List α} (h : d.node? place = some (.file content)) :
    place ≠ [] := by
  rintro rfl
  cases h

theorem node?_append (d : Disk α) (place : Path) (x : α) :
    (d.append place x).node? place = (d.node? place).map (·.receive [x]) := by
  rw [append]
  split
  · next content hfile =>
      rw [node?_put (ne_root_of_file hfile), if_pos rfl, hfile]
      rfl
  · next hother =>
      cases hnode : d.node? place with
      | none => rfl
      | some n =>
          cases n with
          | file content => exact absurd hnode (hother content)
          | directory => rfl
          | «sealed» errno => rfl
          | device => rfl

theorem node?_append_other (x : α) (hq : q ≠ place) :
    (d.append place x).node? q = d.node? q := by
  rw [append]
  split
  · next content hfile => rw [node?_put (ne_root_of_file hfile), if_neg hq]
  · rfl

end Disk

end StatusCodes
