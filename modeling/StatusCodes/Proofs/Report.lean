import StatusCodes.Report

/-!
# What reporting comes to

Whichever way a failure is reported, there is a code that failed, something that is said of it and
a context, and all ways come to the same: one record at the level that the policy has for the code,
or none if it has no level. Who reads the log decides which of the records are kept and has no
say in the answers.
-/

namespace StatusCodes

/-- The record of a failure, if the policy has it reported. -/
def Policy.record? (p : Policy) (c : Code) (message context : String) : Option Record :=
  (p.levelFor c).map fun level => .failure level c message context

/-- What is to be said of a fault: the text that it was given, if that is not empty, and otherwise
the description of its code. -/
def Fault.remark (f : Fault) : String :=
  match f.text.toList with
  | [] => f.code.description
  | _ :: _ => f.text

/-- The failure that a call is about, with what is to be said of it and the context. -/
def Call.failure? : Call → Option (Code × String × String)
  | .report c context => some (c, c.description, context)
  | .reportFault f context => some (f.code, f.remark, context)
  | .passCode (.error c) context => some (c, c.description, context)
  | .passCode (.ok _) _ => none
  | .passFault (.error f) context => some (f.code, f.remark, context)
  | .passFault (.ok _) _ => none

theorem Fault.message_eq_remark (f : Fault) : f.message = f.remark := by
  rw [message, remark]
  cases h : f.text.toList with
  | nil => rw [if_pos (String.toList_eq_nil_iff.mp h)]
  | cons c rest =>
      rw [if_neg]
      intro hempty
      rw [hempty] at h
      cases h

namespace Policy

theorem emit_eq (p : Policy) (c : Code) (message context : String) :
    p.emit c message context =
      ⟨(p.levelFor c).isSome, p.record? c message context⟩ := by
  rw [emit, record?]
  cases p.levelFor c with
  | none => rfl
  | some level =>
      simp only [Record.emitted_eq]
      rfl

end Policy

namespace Call

/-- A call makes the record of the failure that it is about. -/
theorem record?_eq (p : Policy) (call : Call) :
    call.record? p =
      call.failure?.bind fun (code, message, context) => p.record? code message context := by
  cases call with
  | report c context => exact congrArg Reported.record? (p.emit_eq _ _ _)
  | reportFault f context =>
      rw [failure?, ← f.message_eq_remark]
      exact congrArg Reported.record? (p.emit_eq _ _ _)
  | passCode r context =>
      cases r with
      | ok v => rfl
      | error c => exact congrArg Reported.record? (p.emit_eq _ _ _)
  | passFault r context =>
      cases r with
      | ok v => rfl
      | error f =>
          rw [failure?, ← f.message_eq_remark]
          exact congrArg Reported.record? (p.emit_eq _ _ _)

/-- The record that a reader with a limit keeps of a call: one of the failure that the call is
about, if the policy has a level for the code and the level is within the limit. Its message is what
is to be said of the failure, and it has the code's name and value and the token of its category. -/
def event? (p : Policy) (limit : Level) (call : Call) : Option Record :=
  match call.failure? with
  | none => none
  | some (code, message, context) =>
      match p.levelFor code, code.category with
      | some level, some category =>
          if level ≤ limit then
            some {
              level := level
              target := Record.reporter
              message := message
              incident? := some {
                code := code.name
                value := code.raw
                category := category.token
                context := context } }
          else none
      | _, _ => none

/-- What a call answers under a policy: whether the policy has a level for the code, or the result
that it was given. -/
def answerFor (p : Policy) : Call → Answer
  | .report c _ => .reported (p.levelFor c).isSome
  | .reportFault f _ => .reported (p.levelFor f.code).isSome
  | .passCode r _ => .code r
  | .passFault r _ => .fault r

theorem answer_eq (p : Policy) (call : Call) : call.answer p = call.answerFor p := by
  cases call with
  | report c context => exact congrArg (Answer.reported ·.answer) (p.emit_eq _ _ _)
  | reportFault f context => exact congrArg (Answer.reported ·.answer) (p.emit_eq _ _ _)
  | passCode r context => rfl
  | passFault r context => rfl

/-- A code that has a level is a failure, and so comes from some category. -/
theorem exists_category {p : Policy} {c : Code} {level : Level} (h : p.levelFor c = some level) :
    ∃ k, c.category = some k := by
  apply Code.exists_category
  rintro rfl
  cases h

theorem seen_eq (p : Policy) (limit : Level) (call : Call) :
    call.seen p limit = (call.event? p limit).toList := by
  rw [seen, record?_eq, event?]
  cases call.failure? with
  | none => rfl
  | some failure =>
      obtain ⟨code, message, context⟩ := failure
      simp only [Option.bind_some, Policy.record?]
      cases hlevel : p.levelFor code with
      | none => rfl
      | some level =>
          obtain ⟨k, hk⟩ := exists_category hlevel
          simp only [Option.map_some, hk, Option.filter_some]
          by_cases hle : level ≤ limit
          · simp [Record.failure, Incident.ofCode, hk, hle]
          · simp [Record.failure, hle]

/-- Calls add to what a reader has kept, one after the other. -/
theorem makeAll_eq (p : Policy) (limit : Level) (kept : List Record) (calls : List Call) :
    makeAll p limit kept calls =
      (calls.map (answerFor p), kept ++ calls.filterMap (event? p limit)) := by
  induction calls generalizing kept with
  | nil => rw [makeAll, List.map_nil, List.filterMap_nil, List.append_nil]
  | cons call rest ih =>
      rw [makeAll, ih, answer_eq, seen_eq, List.map_cons, List.filterMap_cons]
      cases call.event? p limit <;> simp

end Call

/-- A list of calls answers and records what the policy says. A report answers whether the policy
has a level for the code, whatever the limit of the reader is, and a result is passed on as it was
given. The reader comes to keep, in the order of the calls, the one record of each failure that has
a level within the limit, and nothing else. Results with values of any type are passed on in this
way, without a record if they hold a value, and a code gives the same record whether it is reported
by itself, as a fault, or in a result. -/
theorem calls_follow_policy (p : Policy) (limit : Level) :
    (∀ kept calls, Call.makeAll p limit kept calls =
      (calls.map (Call.answerFor p), kept ++ calls.filterMap (Call.event? p limit))) ∧
    (∀ (α : Type) (r : Except Code α) context, (p.passCode r context).answer = r) ∧
    (∀ (α : Type) (r : Except Fault α) context, (p.passFault r context).answer = r) ∧
    (∀ (α : Type) (v : α) context, (p.passCode (.ok v) context).record? = none ∧
      (p.passFault (.ok v) context).record? = none) ∧
    (∀ (α : Type) (f : Fault) context, (p.passFault (.error f : Except Fault α) context).record? =
      (p.reportFault f context).record?) ∧
    ∀ (α : Type) c context,
      let made := (p.report c context).record?
      (p.reportFault (.ofCode c) context).record? = made ∧
      (p.passCode (.error c : Except Code α) context).record? = made ∧
      (p.passFault (.error (.ofCode c) : Except Fault α) context).record? = made := by
  have hmessage : ∀ c, (Fault.ofCode c).message = c.description := fun c => rfl
  refine ⟨Call.makeAll_eq p limit, fun _ _ _ => rfl, fun _ _ _ => rfl, fun _ _ _ => ⟨rfl, rfl⟩,
    fun _ _ _ => rfl, ?_⟩
  intro α c context made
  have hfault : (p.reportFault (.ofCode c) context).record? = made := by
    rw [Policy.reportFault, hmessage]
    rfl
  exact ⟨hfault, rfl, hfault⟩

/-- A report answers that a record was made although the reader does not keep it. -/
example :
    let p := Policy.standard.withCategory .ipc .debug
    Call.makeAll p .info [] [.report .ipcPipe "peer", .passCode (.error .fsIo) "boot"] =
      ([.reported true, .code (.error .fsIo)], [.failure .warn .fsIo "I/O error" "boot"]) :=
  rfl

end StatusCodes
