import StatusCodes.Binary64.Layout
import StatusCodes.Json
import StatusCodes.Text.Quoted

/-!
# Values in messages

A message that complains about a value shows it with the name of its kind.
-/

namespace StatusCodes.Json

mutual

/-- A value as it is shown in a message. -/
def inspect : Json → String
  | .null => "Null"
  | .bool true => "Boolean(true)"
  | .bool false => "Boolean(false)"
  | .number x => "Number(" ++ x.text ++ ")"
  | .string s => "String(" ++ Text.quoted s ++ ")"
  | .array items => "Array([" ++ ", ".intercalate (inspectItems items) ++ "])"
  | .object members => "Object(\x7b" ++ ", ".intercalate (inspectMembers members) ++ "\x7d)"

/-- The items of an array, one text each. -/
def inspectItems : List Json → List String
  | [] => []
  | v :: rest => v.inspect :: inspectItems rest

/-- The members of an object, one text each. -/
def inspectMembers : List (String × Json) → List String
  | [] => []
  | (k, v) :: rest => (Text.quoted k ++ ": " ++ v.inspect) :: inspectMembers rest

end

end StatusCodes.Json
