import StatusCodes.Disk
import StatusCodes.Filter

/-!
# Installed logs

A log has one or two outputs, and each of them has a filter of its own. What the log says of levels
and of spans is put together from what its filters say.
-/

namespace StatusCodes

/-- The outputs of a log. -/
structure Installation where
  /-- The filter of standard output. -/
  stdout? : Option Filter
  /-- The place of the file, and its filter. -/
  file? : Option (Disk.Path × Filter)
  deriving DecidableEq, Repr

namespace Installation

/-- The place of the file. -/
def place? (i : Installation) : Option Disk.Path :=
  i.file?.map Prod.fst

/-- The filter of an output. -/
def filter? (i : Installation) : Sink → Option Filter
  | .stdout => i.stdout?
  | .file => i.file?.map Prod.snd

/-- The filters of all outputs. -/
def filters (i : Installation) : List Filter :=
  [Sink.stdout, Sink.file].filterMap i.filter?

/-- The finest level that an output may let through. -/
def ceiling? (i : Installation) : Option Level :=
  Level.finest (i.filters.map Filter.ceiling?)

/-- What is said of spans beforehand. -/
def interest (i : Installation) : Interest :=
  .together (i.filters.map Filter.interest)

/-- What an output makes of a span that the log takes, asked about it or not. -/
def view (i : Installation) (asked : Bool) (k : Sink) : Span.View :=
  match i.filter? k with
  | some f => f.view asked
  | none => .hidden

/-- How a span stands that the log takes, asked about it or not. One output is asked if the other
is. -/
def take (i : Installation) (asked : Bool) : Span.Standing :=
  .taken (i.view asked .stdout) (i.view asked .file)

variable {i : Installation}

/-- The file is an output exactly if it has a place. -/
theorem isSome_filter?_file (i : Installation) : (i.filter? .file).isSome = i.place?.isSome := by
  rw [filter?, place?, Option.isSome_map, Option.isSome_map]

theorem place?_of_file? {place : Disk.Path} {f : Filter} (h : i.file? = some (place, f)) :
    i.place? = some place := by
  rw [place?, h, Option.map_some]

theorem filter?_of_file? {place : Disk.Path} {f : Filter} (h : i.file? = some (place, f)) :
    i.filter? .file = some f := by
  rw [filter?, h, Option.map_some]

end Installation

end StatusCodes
