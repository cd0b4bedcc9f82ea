import StatusCodes.Code
import StatusCodes.Level

/-!
# Records

A record is one entry of the log as data: its level, the part of the program that made it, a
message, and, if it reports a failure, what is known of the failure. A log has two outputs at most,
standard output and a file, and how a record is written out is decided there.
-/

namespace StatusCodes

/-- An output of a log. -/
inductive Sink
  | stdout
  | file
  deriving DecidableEq, Repr

/-- What a record says of the failure it reports. -/
structure Incident where
  code : String
  value : Int32
  category : String
  context : String
  deriving DecidableEq, Repr

/-- An entry of the log. -/
structure Record where
  level : Level
  target : String
  message : String
  incident? : Option Incident
  deriving DecidableEq, Repr

/-- What a record says of a code. A code without a category has a dash in its place. -/
def Incident.ofCode (c : Code) (context : String) : Incident where
  code := c.name
  value := c.raw
  category := (c.category.map Category.token).getD "-"
  context := context

/-- The fields of an incident with their values. -/
def Incident.fields (i : Incident) : List (String × String) :=
  [ ("code", i.code), ("value", toString i.value.toInt), ("category", i.category),
    ("context", i.context) ]

namespace Record

/-- The names of a record's fields. The message is one of them. -/
def fieldNames (r : Record) : List String :=
  "message" :: ((r.incident?.map Incident.fields).getD []).map Prod.fst

/-- The part of the program that reports failures. -/
def reporter : String := "kstatus_log::reporter"

/-- The part of the program that makes records of its own. -/
def application : String := "app"

/-- The record of a failure. -/
def failure (level : Level) (c : Code) (message context : String) : Record where
  level := level
  target := reporter
  message := message
  incident? := some (.ofCode c context)

/-- A record that the application makes itself. -/
def note (level : Level) (text : String) : Record where
  level := level
  target := application
  message := text
  incident? := none

end Record

end StatusCodes
