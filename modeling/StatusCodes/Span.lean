import StatusCodes.Record

/-!
# Spans

A span marks a stretch of a session. There is one kind of span: it has a name, is made in one part
of the program, has the finest level and no fields.

How a span stands with the log is settled when it is entered. The log takes the span or does not,
and if it does, each output shows the span or does not. Records made inside a span that an output
shows carry its name there, and such a span may lift the output: up to some level, records made
inside it are written that would not be written outside.
-/

namespace StatusCodes.Span

/-- The part of the program that makes spans. -/
def target : String := "kstatus_log"

/-- What a span is called. -/
def name : String := "kstatus"

/-- The level of a span. -/
def level : Level := .trace

/-- What an output makes of a span. -/
inductive View
  | hidden
  /-- The output shows the span, which lifts it to a level if there is one. -/
  | shown (lift? : Option Level)
  deriving DecidableEq, Repr

/-- Whether the span's name is shown with records made inside it. -/
def View.isShown : View → Bool
  | .hidden => false
  | .shown _ => true

/-- Whether records of some level are written because they are made inside the span. -/
def View.lifts (v : View) (l : Level) : Bool :=
  match v with
  | .hidden => false
  | .shown lift? => l.isWithin lift?

/-- How a span stands with the log. -/
inductive Standing
  /-- The log does not take the span. -/
  | absent
  /-- The log takes the span, and each output makes something of it. -/
  | taken (stdout file : View)
  deriving DecidableEq, Repr

/-- What an output makes of a span that stands like this. -/
def Standing.view : Standing → Sink → View
  | .absent, _ => .hidden
  | .taken view _, .stdout => view
  | .taken _ view, .file => view

end StatusCodes.Span
