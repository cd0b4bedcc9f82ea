import StatusCodes.Installation
import StatusCodes.Logger
import StatusCodes.Report

/-!
# Sessions

A session is the life of a process as far as its log is concerned. At first no log is installed
and records go nowhere. The first logger with an output that can be opened installs the log, and
from then on the log stays as it is: its outputs, and the filters that were made for them. A logger
opens its file before it turns out whether a log is installed already, so one that comes too late
still leaves an empty file.

It leaves something else as well. What a process asks first of everything that happens is not the
log but a ceiling that the process has for all levels, and what it has noted of the interest in the
place where it happens. Both are settled anew whenever a log is offered, by that log and the one
that is installed, before the offer is refused. So a log that was never installed has a say in which
spans are looked at, until the next one is offered. Its say is over what the process asks first,
and not over what the filters of the installed log answer.

A span marks a stretch of the session. How it stands with the log is settled when it is entered,
and before a log is installed there is none to take it. Each output writes a record with the number
of spans around it that it shows, and inside spans that lift it an output writes more records.

The session keeps what each output has received as data.
-/

namespace StatusCodes

/-- What an output receives: a record, and how many spans are shown around it. -/
structure Entry where
  record : Record
  spans : Nat
  deriving DecidableEq, Repr

/-- The state of a session. -/
structure Session where
  /-- Directives that loggers may heed. -/
  environment : String
  policy : Policy
  loggers : List Logger
  installed? : Option Installation
  /-- The finest level that anything is asked about. -/
  ceiling? : Option Level
  /-- The interest in spans, noted from the first span on that was within the ceiling. -/
  interest? : Option Interest
  /-- The spans that have been entered and not left, the latest first. -/
  spans : List Span.Standing
  stdout : List Entry
  disk : Disk Entry

namespace Session

/-- A session at its beginning. -/
def start (environment : String) (disk : Disk Entry) : Session where
  environment := environment
  policy := .standard
  loggers := []
  installed? := none
  ceiling? := none
  interest? := none
  spans := []
  stdout := []
  disk := disk

/-- A log can be installed only once. -/
def alreadyInstalled : Fault :=
  .composed .sysInvalidOp "a global default trace dispatcher has already been set"

/-- Settle the ceiling, and the interest if it has been noted, by a log that is offered and the one
that is installed. -/
def consult (s : Session) (i : Installation) : Session :=
  let logs := s.installed?.toList ++ [i]
  { s with
    ceiling? := Level.finest (logs.map Installation.ceiling?)
    interest? := s.interest?.map fun _ => .together (logs.map Installation.interest) }

/-- Install a log, unless one is installed. The log has been consulted by then. -/
def install (s : Session) (i : Installation) : Except Fault Unit × Session :=
  let s := s.consult i
  match s.installed? with
  | none => (.ok (), { s with installed? := some i })
  | some _ => (.error alreadyInstalled, s)

/-- Open the outputs of a logger, each with a filter, and install the log. Without outputs there is
nothing to do. -/
def setUp (s : Session) (l : Logger) : Except Fault Unit × Session :=
  let stdout? := if l.stdout then some (l.filter s.environment) else none
  match l.file? with
  | none => if stdout?.isSome then s.install ⟨stdout?, none⟩ else (.ok (), s)
  | some path =>
      match s.disk.create path with
      | .error e => (.error e.fault, s)
      | .ok (place, disk) =>
          { s with disk := disk }.install ⟨stdout?, some (place, l.filter s.environment)⟩

/-- How many spans an output shows with a record made now. -/
def shownSpans (s : Session) (k : Sink) : Nat :=
  s.spans.countP fun standing => (standing.view k).isShown

/-- Whether a span around the session lifts an output to a level. -/
def isLifted (s : Session) (k : Sink) (l : Level) : Bool :=
  s.spans.any fun standing => (standing.view k).lifts l

/-- The interest that a span meets which is entered now, if it is within the ceiling: the one that
was noted, or that of the log if this is the first such span. -/
def spanInterest? (s : Session) : Option Interest :=
  if Span.level.isWithin s.ceiling? then s.interest?.or (s.installed?.map Installation.interest)
  else none

/-- How a span stands that is entered now. -/
def standing (s : Session) : Span.Standing :=
  match s.installed?, s.spanInterest? with
  | some i, some .always => i.take false
  | some i, some .sometimes => i.take true
  | _, _ => .absent

/-- What an output receives of a record made now. -/
def entry (s : Session) (k : Sink) (r : Record) : Entry :=
  ⟨r, s.shownSpans k⟩

/-- Hand a record to those outputs of a log that take it. -/
def deliver (s : Session) (i : Installation) (takes : Sink → Bool) (r : Record) : Session :=
  { s with
    stdout :=
      if i.stdout?.isSome && takes .stdout then s.stdout ++ [s.entry .stdout r] else s.stdout
    disk := match i.place? with
      | some place => if takes .file then s.disk.append place (s.entry .file r) else s.disk
      | none => s.disk }

/-- Whether an output takes a record that is made now. -/
def takes (s : Session) (i : Installation) (r : Record) (k : Sink) : Bool :=
  r.level.isWithin s.ceiling? &&
    (i.filter? k).any fun f => f.admits r || s.isLifted k r.level

/-- Make a record. The interest in a place where records are made is left out here, since it decides
nothing: a filter that always has it admits the record, and one that never has it is not lifted. -/
def write (s : Session) (r : Record) : Session :=
  match s.installed? with
  | none => s
  | some i => s.deliver i (s.takes i r) r

/-- Something that happens in a session. -/
inductive Step
  /-- The policy is replaced, if there is one to replace it. -/
  | policy (p : Except Fault Policy)
  /-- A logger is added, if there is one. -/
  | build (l : Except Fault Logger)
  /-- The log is set up by one of the loggers. -/
  | setUp (index : Nat)
  | enterSpan
  | exitSpan
  | call (c : Call)
  /-- The application makes a record. -/
  | note (level : Level) (text : String)

/-- What a step answers. -/
inductive Answer
  | done
  | refused (f : Fault)
  | built (l : Logger)
  | noSuchLogger
  /-- How the span stands that was entered. -/
  | entered (standing : Span.Standing)
  /-- Whether there was a span to leave. -/
  | left (b : Bool)
  | called (a : Call.Answer)

/-- The answer for an outcome without a value. -/
def Answer.ofOutcome : Except Fault Unit → Answer
  | .ok () => .done
  | .error f => .refused f

/-- One step. -/
def step (s : Session) : Step → Answer × Session
  | .policy (.ok p) => (.done, { s with policy := p })
  | .policy (.error f) => (.refused f, s)
  | .build (.ok l) => (.built l, { s with loggers := s.loggers ++ [l] })
  | .build (.error f) => (.refused f, s)
  | .setUp index =>
      match s.loggers[index]? with
      | none => (.noSuchLogger, s)
      | some l => (.ofOutcome (s.setUp l).1, (s.setUp l).2)
  | .enterSpan =>
      (.entered s.standing,
        { s with
          interest? := s.spanInterest?.or s.interest?
          spans := s.standing :: s.spans })
  | .exitSpan => (.left (!s.spans.isEmpty), { s with spans := s.spans.tail })
  | .call c =>
      (.called (c.answer s.policy),
        match c.record? s.policy with
        | some r => s.write r
        | none => s)
  | .note level text => (.done, s.write (.note level text))

/-- Steps in order: the answers, and the state they lead to. -/
def run (s : Session) : List Step → List Answer × Session
  | [] => ([], s)
  | x :: rest =>
      let (a, s) := s.step x
      let (as, s) := s.run rest
      (a :: as, s)

@[simp] theorem run_nil (s : Session) : s.run [] = ([], s) := rfl

theorem run_cons (s : Session) (x : Step) (rest : List Step) :
    s.run (x :: rest) =
      ((s.step x).1 :: ((s.step x).2.run rest).1, ((s.step x).2.run rest).2) := rfl

theorem run_append (s : Session) (xs ys : List Step) :
    s.run (xs ++ ys) =
      ((s.run xs).1 ++ ((s.run xs).2.run ys).1, ((s.run xs).2.run ys).2) := by
  induction xs generalizing s with
  | nil => rfl
  | cons x xs ih => simp [run_cons, ih]

end Session

end StatusCodes
