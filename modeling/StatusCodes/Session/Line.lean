import StatusCodes.Session
import StatusCodes.Text.Quoted

/-!
# Lines of a log

An entry is written as a line: when it was made, its level, the spans around it, the part of the
program, the message and what is known of the failure. In a file the line is plain. On standard
output it also names the thread and is set off with terminal styles.

Characters that would steer a terminal are replaced in the message. A line break is left as it is,
so an entry can take several lines.
-/

namespace StatusCodes

namespace Sink

/-- A part of a line in a terminal style, given by its number. Files have no styles. -/
def paint (sink : Sink) (style : Nat) (text : String) : String :=
  match sink with
  | .file => text
  | .stdout => s!"\x1b[{style}m{text}\x1b[0m"

/-- The style of what is most important. -/
def bold : Nat := 1

/-- The style of what is less important. -/
def dim : Nat := 2

/-- The style of the names of fields. -/
def italic : Nat := 3

/-- The thread that made an entry, where it is shown. -/
def thread : Sink → String
  | .stdout => " ThreadId(01)"
  | .file => ""

end Sink

/-- The colour of a level. -/
def Level.colour : Level → Nat
  | .error => 31
  | .warn => 33
  | .info => 32
  | .debug => 34
  | .trace => 35

/-- The name of a level, moved to the right so that all names end together. -/
def Level.column (l : Level) : String :=
  "".pushn ' ' (5 - l.name.length) ++ l.name

namespace Entry

/-- A character of a message as it is written. -/
def shown (c : Char) : String :=
  match c with
  | '\x1b' => "\\x1b"
  | '\x07' => "\\x07"
  | '\x08' => "\\x08"
  | '\x0c' => "\\x0c"
  | '\x7f' => "\\x7f"
  | _ =>
      if 0x80 ≤ c.toNat ∧ c.toNat < 0xA0 then "\\u\x7b" ++ Text.hex c ++ "\x7d" else c.toString

/-- A message as it is written. -/
def shownMessage (s : String) : String :=
  String.join (s.toList.map shown)

/-- The text of an entry. -/
def text (sink : Sink) (time : String) (e : Entry) : String :=
  let colon := sink.paint Sink.dim ":"
  let span := sink.paint Sink.bold Span.name ++ colon
  let spans := if e.spans = 0 then "" else String.join (List.replicate e.spans span) ++ " "
  let details := (e.record.incident?.map Incident.fields).getD []
  sink.paint Sink.dim time ++ " " ++
    sink.paint e.record.level.colour e.record.level.column ++ sink.thread ++ " " ++ spans ++
    sink.paint Sink.dim e.record.target ++ colon ++ " " ++ shownMessage e.record.message ++
    String.join (details.map fun (name, value) =>
      " " ++ sink.paint Sink.italic name ++ sink.paint Sink.dim "=" ++ value)

/-- The lines of an entry. -/
def lines (sink : Sink) (time : String) (e : Entry) : List String :=
  ((e.text sink time).toList.splitOn '\n').map String.ofList

end Entry

end StatusCodes
