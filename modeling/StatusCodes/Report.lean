import StatusCodes.Fault
import StatusCodes.Policy
import StatusCodes.Record

/-!
# Reporting

A failure is reported by its code, as a fault, or on the way through a result that is passed on
unchanged. Reporting makes at most one record: at the level of the policy, or none if the policy
has none. Whether a record was made depends on the policy alone and not on who reads the log.
-/

namespace StatusCodes

/-- What a report of a fault says: its text, or its code's description if the text is empty. -/
def Fault.message (f : Fault) : String :=
  if f.text = "" then f.code.description else f.text

/-- The record of a failure as it is made. The level of a record is fixed at the place in the
program that makes it, so there is one place for each level. -/
def Record.emitted (level : Level) (c : Code) (message context : String) : Record :=
  if level = .error then failure .error c message context
  else if level = .warn then failure .warn c message context
  else if level = .info then failure .info c message context
  else if level = .debug then failure .debug c message context
  else failure .trace c message context

/-- Every level has its own place. -/
theorem Record.emitted_eq (level : Level) (c : Code) (message context : String) :
    emitted level c message context = failure level c message context := by
  cases level <;> rfl

/-- What comes of reporting: an answer, and the record that was made, if one was. -/
structure Reported (α : Type) where
  answer : α
  record? : Option Record

namespace Policy

/-- Make the record of a failure, unless the policy has no level for it. The answer is whether a
record was made. -/
def emit (p : Policy) (c : Code) (message context : String) : Reported Bool :=
  match p.levelFor c with
  | none => ⟨false, none⟩
  | some level => ⟨true, some (.emitted level c message context)⟩

/-- Report a code. -/
def report (p : Policy) (c : Code) (context : String) : Reported Bool :=
  p.emit c c.description context

/-- Report a fault. -/
def reportFault (p : Policy) (f : Fault) (context : String) : Reported Bool :=
  p.emit f.code f.message context

/-- Pass a result on, reporting the code it may hold. -/
def passCode (p : Policy) (r : Except Code α) (context : String) : Reported (Except Code α) where
  answer := r
  record? :=
    match r with
    | .error c => (p.report c context).record?
    | .ok _ => none

/-- Pass a result on, reporting the fault it may hold. -/
def passFault (p : Policy) (r : Except Fault α) (context : String) :
    Reported (Except Fault α) where
  answer := r
  record? :=
    match r with
    | .error f => (p.reportFault f context).record?
    | .ok _ => none

end Policy

/-- A call that may report a failure. -/
inductive Call
  /-- Report a code. -/
  | report (c : Code) (context : String)
  /-- Report a fault. -/
  | reportFault (f : Fault) (context : String)
  /-- Pass a result on, reporting the code it may hold. -/
  | passCode (r : Except Code Int64) (context : String)
  /-- Pass a result on, reporting the fault it may hold. -/
  | passFault (r : Except Fault Int64) (context : String)

/-- What a call answers. -/
inductive Call.Answer
  /-- Whether a record was made. -/
  | reported (b : Bool)
  | code (r : Except Code Int64)
  | fault (r : Except Fault Int64)

namespace Call

/-- The record that a call makes, if it makes one. -/
def record? (p : Policy) : Call → Option Record
  | .report c context => (p.report c context).record?
  | .reportFault f context => (p.reportFault f context).record?
  | .passCode r context => (p.passCode r context).record?
  | .passFault r context => (p.passFault r context).record?

/-- The answer of a call. -/
def answer (p : Policy) : Call → Answer
  | .report c context => .reported (p.report c context).answer
  | .reportFault f context => .reported (p.reportFault f context).answer
  | .passCode r context => .code (p.passCode r context).answer
  | .passFault r context => .fault (p.passFault r context).answer

/-- The record of a call as a reader sees it who takes levels up to a limit. -/
def seen (p : Policy) (limit : Level) (call : Call) : List Record :=
  ((call.record? p).filter fun r => r.level ≤ limit).toList

/-- What a reader with a limit sees of a list of calls. -/
def seenAll (p : Policy) (limit : Level) (calls : List Call) : List Record :=
  calls.flatMap (seen p limit)

/-- Make calls in order, for a reader with a limit who has kept some records already: the answers,
and what the reader has kept in the end. -/
def makeAll (p : Policy) (limit : Level) (kept : List Record) :
    List Call → List Answer × List Record
  | [] => ([], kept)
  | call :: rest =>
      let (answers, kept) := makeAll p limit (kept ++ call.seen p limit) rest
      (call.answer p :: answers, kept)

end Call

end StatusCodes
