import StatusCodes.Config
import StatusCodes.Policy

/-!
# Policies in configurations

A policy is written as an object with up to three members: `level`, the level of every failure;
`categories`, an object that gives categories levels of their own; and `mute`, an array of the
names of codes that are never reported. Other members are passed over, and an empty configuration
is the standard policy.

What is wrong with a policy is reported for the first wrong entry, in the order of the members
above. Within `categories` the token of a category is looked at before its level.
-/

namespace StatusCodes.Policy

/-- What is wrong with the text of a policy. -/
inductive Defect
  | notAnObject
  | levelNotText
  | categoriesNotAnObject
  | muteNotAnArray
  | muteEntryNotText
  | unknown (what : Unknown)
  deriving DecidableEq, Repr

/-- A defect is a wrong parameter, and its text names the entry. -/
def Defect.fault : Defect → Fault
  | .notAnObject => .fixed .genInvalidParam "report policy must be an object"
  | .levelNotText => .fixed .genInvalidParam "log level must be a string"
  | .categoriesNotAnObject => .fixed .genInvalidParam "'categories' must be an object"
  | .muteNotAnArray => .fixed .genInvalidParam "'mute' must be an array"
  | .muteEntryNotText => .fixed .genInvalidParam "'mute' entries must be code names"
  | .unknown what => what.fault

/-- Read a level. -/
def readLevel (v : Json) : Except Defect Level :=
  match v with
  | .string s => (Level.parse s).mapError .unknown
  | _ => .error .levelNotText

/-- Read the name of a code. -/
def readCode (v : Json) : Except Defect Code :=
  match v with
  | .string s => (Code.parse s).mapError .unknown
  | _ => .error .muteEntryNotText

/-- Read a member of `categories`: the category first, then its level. -/
def readOverride (m : String × Json) : Except Defect (Category × Level) := do
  let k ← (Category.parse m.1).mapError .unknown
  let l ← readLevel m.2
  return (k, l)

/-- Read the level of every failure. -/
def readDefault (v? : Option Json) : Except Defect Level :=
  match v? with
  | none => .ok standard.level
  | some v => readLevel v

/-- Read the levels of categories. -/
def readCategories (v? : Option Json) : Except Defect (List (Category × Level)) :=
  match v? with
  | none => .ok []
  | some (.object members) => members.mapM readOverride
  | some _ => .error .categoriesNotAnObject

/-- Read the codes that are never reported. -/
def readMute (v? : Option Json) : Except Defect (List Code) :=
  match v? with
  | none => .ok []
  | some (.array items) => items.mapM readCode
  | some _ => .error .muteNotAnArray

/-- The policy with these levels and these codes muted. A later level for a category replaces an
earlier one. -/
def assemble (level : Level) (categories : List (Category × Level)) (mute : List Code) : Policy :=
  mute.foldl withMuted (categories.foldl (fun p m => p.withCategory m.1 m.2) (uniform level))

/-- Read a policy from a value. -/
def ofJson (v : Json) : Except Defect Policy :=
  match v with
  | .null => .ok standard
  | .object members => do
      let level ← readDefault (members.lookup "level")
      let categories ← readCategories (members.lookup "categories")
      let mute ← readMute (members.lookup "mute")
      return assemble level categories mute
  | _ => .error .notAnObject

/-- Read a policy from a configuration. -/
def ofConfig (c : Config) : Except Fault Policy :=
  (ofJson c.value).mapError Defect.fault

/-- Every defect is a wrong parameter. -/
theorem Defect.code_fault (d : Defect) : d.fault.code = .genInvalidParam := by
  cases d <;> rfl

end StatusCodes.Policy
