import StatusCodes.Binary64

/-!
# JSON values

The values a document can hold. The members of an object are kept in the order in which their
keys were first written; an object that was read from a document has each key once.
-/

namespace StatusCodes

/-- A value of a document. -/
inductive Json
  | null
  | bool (b : Bool)
  | number (x : Binary64)
  | string (s : String)
  | array (items : List Json)
  | object (members : List (String × Json))
  deriving Repr

namespace Json

/-- Whether the value is null. -/
def isNull : Json → Bool
  | .null => true
  | _ => false

/-- The text, if the value is one. -/
def string? : Json → Option String
  | .string s => some s
  | _ => none

/-- The members, if the value is an object. -/
def members? : Json → Option (List (String × Json))
  | .object members => some members
  | _ => none

/-- The value of a member, if the value is an object that has it. -/
def get? (j : Json) (key : String) : Option Json :=
  j.members?.bind (·.lookup key)

end Json

end StatusCodes
