import StatusCodes.HostError
import StatusCodes.Proofs.Errno
import StatusCodes.Proofs.Policy.Changes
import StatusCodes.Proofs.Report
import StatusCodes.Status

/-!
# What becomes of host errors

The code of a host error is that of its number, if the table of error numbers knows it, and that
of its kind otherwise. No kind has the code of a success, and the table has it for one number
alone, which is zero. So a host operation that failed is a failure to everyone who asks, and is
reported, unless the host gave zero as the reason.
-/

namespace StatusCodes

namespace HostError

variable {e : HostError} {n : Int32} {c : Code}

/-! ## Codes -/

theorem code_of_lookup (h : Errno.lookup n = some c) : (numbered n).code = c := by
  rw [code, number?, Option.bind_some, h, Option.getD_some]

/-- Without a number that the table knows, the kind decides. -/
theorem code_of_unknown (h : e.number?.bind Errno.lookup = none) : e.code = e.kind.code := by
  rw [code, h, Option.getD_none]

theorem Kind.code_ne_success (k : Kind) : k.code ≠ .success := by
  cases k <;> decide

theorem code_eq_success_iff : e.code = .success ↔ e = .numbered 0 := by
  cases e with
  | numbered n =>
      rw [numbered.injEq, ← Errno.lookup_eq_some_success_iff]
      cases h : Errno.lookup n with
      | none =>
          have hunknown : (numbered n).number?.bind Errno.lookup = none := h
          rw [code_of_unknown hunknown]
          simp [Kind.code_ne_success]
      | some c =>
          rw [code_of_lookup h]
          simp
  | bare k =>
      rw [code_of_unknown rfl]
      simp [Kind.code_ne_success]
  | told k text =>
      rw [code_of_unknown rfl]
      simp [Kind.code_ne_success]

theorem isError_code_iff : isError e.code = true ↔ e ≠ .numbered 0 :=
  Code.isError_iff.trans (not_congr code_eq_success_iff)

end HostError

/-! ## Reports -/

/-- A policy that mutes nothing has a level for every failure. -/
theorem Policy.exists_levelFor {p : Policy} (hmute : ∀ c, p.isMuted c = false) {c : Code}
    (hc : c ≠ .success) : ∃ l, p.levelFor c = some l := by
  refine ⟨_, levelFor_eq_some_iff.mpr ⟨hc, ?_, rfl⟩⟩
  rw [hmute c]
  decide

/-- Who takes records of every level sees what a call makes. -/
theorem Call.seen_trace (p : Policy) (call : Call) :
    call.seen p .trace = (call.record? p).toList := by
  rw [seen]
  cases call.record? p with
  | none => rfl
  | some r => simp [Level.le_trace]

namespace HostError

/-- The error of a host operation is a failure, by its code and in the result of the operation,
and passing the result on makes one record of it, whatever the policy is that mutes nothing. -/
structure StaysFailure (e : HostError) : Prop where
  code : isError e.code = true
  status : ∀ α : Type, ∃ f, status (.error e : Except HostError α) = .error f ∧ isError f = true
  reported : ∀ p : Policy, (∀ c, p.isMuted c = false) → ∀ context, ∃ l,
    p.levelFor e.code = some l ∧
      Call.seenAll p .trace [.passFault (HostError.status (.error e)) context] =
        [.failure l e.code e.fault.message context]

theorem seenAll_status (p : Policy) (e : HostError) (context : String) :
    Call.seenAll p .trace [.passFault (status (.error e)) context] =
      (p.record? e.code e.fault.message context).toList := by
  rw [Call.seenAll, List.flatMap_singleton, Call.seen_trace, Call.record?_eq,
    Fault.message_eq_remark]
  rfl

/-- The error of a host operation stays a failure unless its number is zero. -/
theorem staysFailure_iff (e : HostError) : e.StaysFailure ↔ e ≠ .numbered 0 := by
  constructor
  · intro h
    exact isError_code_iff.mp h.code
  · intro h
    have herror : isError e.code = true := isError_code_iff.mpr h
    refine ⟨herror, fun α => ⟨e.fault, rfl, herror⟩, ?_⟩
    intro p hmute context
    obtain ⟨l, hl⟩ := Policy.exists_levelFor hmute (Code.isError_iff.mp herror)
    refine ⟨l, hl, ?_⟩
    rw [seenAll_status, Policy.record?, hl]
    rfl

/-- The host's number zero is no failure to anyone, although the operation failed. -/
theorem number_zero_not_staysFailure :
    ¬ (numbered 0).StaysFailure ∧
    (numbered 0).code = .success ∧
    (status (.error (numbered 0)) : Except Fault Int64) = .error (numbered 0).fault ∧
    isError (numbered 0).fault = false ∧
    Call.seenAll .standard .trace [.passFault (status (.error (numbered 0))) ""] = [] := by
  have hcode : (numbered 0).code = .success := rfl
  refine ⟨?_, hcode, rfl, rfl, rfl⟩
  intro h
  have herror := h.code
  rw [hcode] at herror
  cases herror

end HostError

end StatusCodes
