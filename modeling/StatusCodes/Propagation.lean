import StatusCodes.Status

/-!
# Propagation

A routine runs its steps in order and returns at the first that fails, handing the failure to its
caller in the type that it answers with. Four kinds of routine do this, one for each answer type:
a code, a word, a fault, or a result. What a kind of routine may contain follows from which
failures can be turned into its answers, and is written into the type of its steps.

`run` is the rule behind the first three. It takes the conversion of failures and the answer of a
routine that got past every step. A routine that answers with a result goes about it in another
way: it checks its codes and takes its results apart, and keeps at hand the value that the last of
them had.
-/

namespace StatusCodes.Propagation

/-- A step whose failures are of type `φ`: a status of that type by itself, or a result with such
a failure as its error. -/
inductive Step (φ : Type)
  | plain (status : φ)
  | result (r : Except φ Int64)

instance [Status φ φ] : Status (Step φ) φ where
  isError
    | .plain s => isError s
    | .result r => isError r
  failure?
    | .plain s => failure? s
    | .result r => failure? r

instance [Status φ φ] [LawfulStatus φ] : LawfulStatus (Step φ) where
  isError_eq
    | .plain s => LawfulStatus.isError_eq s
    | .result r => LawfulStatus.isError_eq r

/-- What a routine returned, and the number of steps it got past. -/
structure Outcome (ρ : Type) where
  returned : ρ
  passed : Nat
  deriving DecidableEq, Repr

/-- Run the steps up to the first that fails. -/
def run [Status σ φ] (hand : φ → ρ) (finished : ρ) : List σ → Outcome ρ
  | [] => ⟨finished, 0⟩
  | s :: rest =>
      match failure? s with
      | some f => ⟨hand f, 0⟩
      | none =>
          let o := run hand finished rest
          ⟨o.returned, o.passed + 1⟩

/-- A routine that answers with a code. -/
def returningCode (steps : List (Step Code)) : Outcome Code :=
  run id .success steps

/-- A routine that answers with a word; codes are handed on as their values. -/
def returningWord (steps : List (Step Code ⊕ Step Int32)) : Outcome Int32 :=
  run (Sum.elim Code.raw id) 0 steps

/-- A routine that answers with a fault; codes are handed on without a text. -/
def returningFault (steps : List (Step Code ⊕ Step Fault)) : Outcome Fault :=
  run (Sum.elim Fault.ofCode id) (.ofCode .success) steps

/-- The value at hand after a step, or the failure of the step. -/
def advance (last : Int64) : Step Code ⊕ Except Fault Int64 → Except Fault Int64
  | .inl (.plain c) => do
      c.check.mapError Fault.ofCode
      return last
  | .inl (.result r) => r.mapError Fault.ofCode
  | .inr r => r

/-- Run the steps up to the first that fails, beginning with a value at hand. -/
def runFrom (last : Int64) :
    List (Step Code ⊕ Except Fault Int64) → Outcome (Except Fault Int64)
  | [] => ⟨.ok last, 0⟩
  | s :: rest =>
      match advance last s with
      | .error f => ⟨.error f, 0⟩
      | .ok value =>
          let o := runFrom value rest
          ⟨o.returned, o.passed + 1⟩

/-- A routine that answers with a result: its value is the last that a step left behind. -/
def returningResult (steps : List (Step Code ⊕ Except Fault Int64)) :
    Outcome (Except Fault Int64) :=
  runFrom 0 steps

end StatusCodes.Propagation
