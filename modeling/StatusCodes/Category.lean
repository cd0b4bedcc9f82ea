import StatusCodes.Text.Letters

/-!
# Categories

A category is the subsystem a failure comes from. Each has a token, the short word that its codes
carry in their names: `ERR_FS_IO` belongs to the category whose token is `FS`. A token read from
a configuration may be written in any letter case; inside a code name it is exact.
-/

namespace StatusCodes

/-- The subsystem a failure comes from. -/
inductive Category
  | generic
  | filesystem
  | device
  | memory
  | ipc
  | system
  deriving DecidableEq, Repr

namespace Category

/-- Every category, in table order. -/
def all : List Category :=
  [.generic, .filesystem, .device, .memory, .ipc, .system]

/-- The word that stands for the category in code names. -/
def token : Category → String
  | .generic => "GEN"
  | .filesystem => "FS"
  | .device => "DEVICE"
  | .memory => "MEM"
  | .ipc => "IPC"
  | .system => "SYS"

/-- The category's name in full. -/
def title : Category → String
  | .generic => "Generic"
  | .filesystem => "Filesystem"
  | .device => "Device"
  | .memory => "Memory"
  | .ipc => "Ipc"
  | .system => "System"

/-- The category with a given token, whatever the case of its letters. -/
def ofToken? (s : String) : Option Category :=
  all.find? fun c => Text.sameLetters c.token s

/-- The category that a code name spells: its token is what stands between `ERR_` and the next
underscore, or the end of the name if no underscore follows. -/
def ofCodeName? (name : String) : Option Category :=
  match Text.afterStart? "ERR_".toList name.toList with
  | none => none
  | some rest => all.find? fun c => c.token.toList == rest.takeWhile (· != '_')

theorem mem_all (c : Category) : c ∈ all := by
  cases c <;> decide

/-- Tokens differ even when letter case is left out of account. -/
theorem folded_token_injective {c d : Category} (h : Text.folded c.token = Text.folded d.token) :
    c = d := by
  revert h
  cases c <;> cases d <;> decide

theorem ofToken?_eq_some_iff {s : String} {c : Category} :
    ofToken? s = some c ↔ Text.folded s = Text.folded c.token := by
  constructor
  · intro h
    have := List.find?_some h
    exact (Text.sameLetters_iff.mp this).symm
  · intro h
    have found : (ofToken? s).isSome := by
      rw [ofToken?, List.find?_isSome]
      exact ⟨c, mem_all c, Text.sameLetters_iff.mpr h.symm⟩
    obtain ⟨d, hd⟩ := Option.isSome_iff_exists.mp found
    have match_d : Text.sameLetters d.token s = true := by
      rw [ofToken?] at hd
      have := List.find?_some hd
      exact this
    have hs : Text.folded d.token = Text.folded s := Text.sameLetters_iff.mp match_d
    rw [hd, folded_token_injective (hs.trans h)]

@[simp] theorem ofToken?_token (c : Category) : ofToken? c.token = some c :=
  ofToken?_eq_some_iff.mpr rfl

end Category

end StatusCodes
