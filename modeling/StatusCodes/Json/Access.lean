import StatusCodes.Json.Inspect

/-!
# Reaching into a value

Members are reached by their key and items by their place. An access that finds nothing says why.
-/

namespace StatusCodes.Json

/-- Why an access found nothing. -/
inductive AccessError
  | notAnObject (key : String) (value : Json)
  | noSuchKey (key : String) (value : Json)
  | notAnArray (index : Nat) (value : Json)
  | outOfBounds (length index : Nat)

namespace AccessError

/-- The text of a failed access. -/
def message : AccessError → String
  | .notAnObject key value =>
      s!"Attempted to access to an object with key '{key}' but actually it was {value.inspect}"
  | .noSuchKey key value => s!"Key '{key}' was not found in {value.inspect}"
  | .notAnArray index value =>
      s!"Attempted to access to an array with index {index} but actually the value was "
        ++ value.inspect
  | .outOfBounds length index =>
      s!"index out of bounds: the len is {length} but the index is {index}"

end AccessError

/-- The member with a given key. -/
def member (j : Json) (key : String) : Except AccessError Json :=
  match j with
  | .object members =>
      match members.lookup key with
      | some v => .ok v
      | none => .error (.noSuchKey key j)
  | _ => .error (.notAnObject key j)

/-- The item at a given place, counted from zero. -/
def item (j : Json) (index : Nat) : Except AccessError Json :=
  match j with
  | .array items =>
      match items[index]? with
      | some v => .ok v
      | none => .error (.outOfBounds items.length index)
  | _ => .error (.notAnArray index j)

/-- A member is found exactly when it is there. -/
theorem member_toOption (j : Json) (key : String) : (j.member key).toOption = j.get? key := by
  cases j with
  | object members =>
      simp only [member, get?, members?, Option.bind_some]
      cases members.lookup key <;> rfl
  | _ => rfl

end StatusCodes.Json
