import StatusCodes.Fault
import StatusCodes.Json.Access
import StatusCodes.Json.Reader

/-!
# Configurations

A configuration is a value read from a document, or nothing at all, which is kept as null. Its
parts can be reached in two ways. `section?` and `string?` answer with nothing where there is
nothing to find; `member` and `item` say what was wrong.
-/

namespace StatusCodes

/-- A configuration. -/
structure Config where
  value : Json

namespace Config

/-- The empty configuration. -/
def empty : Config := ⟨.null⟩

/-- A text that is no document is a wrong parameter. -/
def unreadable (e : Json.ReadError) : Fault :=
  .composed .genInvalidParam e.message

/-- Read a configuration from a document. -/
def parse (text : String) : Except Fault Config :=
  match Json.parse text with
  | .ok v => .ok ⟨v⟩
  | .error e => .error (unreadable e)

/-- Whether the configuration holds nothing. -/
def isEmpty (c : Config) : Bool :=
  c.value.isNull

/-- The part under a key, if the configuration is an object that has it. -/
def section? (c : Config) (key : String) : Option Config :=
  (c.value.get? key).map Config.mk

/-- The part under a key, or the empty configuration. -/
def sectionOrEmpty (c : Config) (key : String) : Config :=
  (c.section? key).getD empty

/-- The text under a key, if there is one. -/
def string? (c : Config) (key : String) : Option String :=
  (c.value.get? key).bind Json.string?

/-- The member under a key, or why there is none. -/
def member (c : Config) (key : String) : Except Json.AccessError Json :=
  c.value.member key

/-- The item at a place, or why there is none. -/
def item (c : Config) (index : Nat) : Except Json.AccessError Json :=
  c.value.item index

end Config

end StatusCodes
