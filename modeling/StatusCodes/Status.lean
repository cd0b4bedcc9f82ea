import StatusCodes.Fault

/-!
# Status values

Several kinds of value report success or failure: a code, a 32-bit word, a fault, and a result
that carries a value or a failure. `Status` is what they share: a test, and the failure that is
handed to a caller. The kinds decide by rules of their own. A code or a fault fails unless its
code is `success`; a word fails when it is negative; a result fails when it holds an error,
whatever that error is.
-/

namespace StatusCodes

/-- Values of `σ` report success or a failure of type `φ`. -/
class Status (σ : Type) (φ : outParam Type) where
  /-- Whether the value denotes a failure. -/
  isError : σ → Bool
  /-- The failure to hand to the caller. -/
  failure? : σ → Option φ

export Status (isError failure?)

/-- Whether the value denotes success. -/
def isSuccess [Status σ φ] (s : σ) : Bool :=
  !isError s

/-- The test and the failure agree: there is a failure to hand on exactly when the test says so. -/
class LawfulStatus (σ : Type) {φ : Type} [Status σ φ] : Prop where
  isError_eq : ∀ s : σ, isError s = (failure? s).isSome

instance : Status Code Code where
  isError := Code.isError
  failure? c := if c.isError then some c else none

instance : Status Int32 Int32 where
  isError w := w < 0
  failure? w := if w < 0 then some w else none

instance : Status Fault Fault where
  isError f := f.code.isError
  failure? f := if f.code.isError then some f else none

instance : Status (Except ε α) ε where
  isError
    | .ok _ => false
    | .error _ => true
  failure?
    | .ok _ => none
    | .error e => some e

/-- Either of two kinds of status is a status. -/
instance [Status σ φ] [Status τ ψ] : Status (σ ⊕ τ) (φ ⊕ ψ) where
  isError
    | .inl s => isError s
    | .inr t => isError t
  failure?
    | .inl s => (failure? s).map .inl
    | .inr t => (failure? t).map .inr

instance : LawfulStatus Code where
  isError_eq c := by cases h : c.isError <;> simp [isError, failure?, h]

instance : LawfulStatus Int32 where
  isError_eq w := by by_cases h : w < 0 <;> simp [isError, failure?, h]

instance : LawfulStatus Fault where
  isError_eq f := by cases h : f.code.isError <;> simp [isError, failure?, h]

instance : LawfulStatus (Except ε α) where
  isError_eq r := by cases r <;> rfl

instance [Status σ φ] [Status τ ψ] [LawfulStatus σ] [LawfulStatus τ] :
    LawfulStatus (σ ⊕ τ) where
  isError_eq
    | .inl s => by
        simpa [isError, failure?] using LawfulStatus.isError_eq s
    | .inr t => by
        simpa [isError, failure?] using LawfulStatus.isError_eq t

end StatusCodes
