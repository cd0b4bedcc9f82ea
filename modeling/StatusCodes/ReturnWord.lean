import StatusCodes.Code

/-!
# Return words

A system call answers with one 64-bit machine word. A word that is not negative is the result; a
negative word is the value of a failure code. Two outcomes have no word of their own: a result
above the largest signed word cannot be told from a failure and is sent as an invalid parameter,
and a failure with the code `success` is a mistake of the caller and is sent as an invalid
operation. A negative word that is no code's value reads as an invalid operation too.

Codes have 32 bits. A code's value is widened to a word, and a word that does not fit into 32 bits
is no code's value, whatever its lower half is.
-/

namespace StatusCodes.ReturnWord

/-- The value of a code as a word. -/
def ofCode (c : Code) : Int64 :=
  c.raw.toInt64

/-- The word in 32 bits, if it fits. -/
def narrowed? (w : Int64) : Option Int32 :=
  if Int32.minValue.toInt ≤ w.toInt ∧ w.toInt ≤ Int32.maxValue.toInt then some w.toInt32 else none

/-- The code whose value the word is. -/
def code? (w : Int64) : Option Code :=
  (narrowed? w).bind fun n => Code.ofValue? n.toInt

/-- The word for an outcome. -/
def encode : Except Code UInt64 → Int64
  | .ok v => if v.toNat < Nat.pow 2 63 then v.toInt64 else ofCode .genInvalidParam
  | .error .success => ofCode .sysInvalidOp
  | .error c => ofCode c

/-- The outcome a word stands for. -/
def decode (w : Int64) : Except Code UInt64 :=
  if 0 ≤ w.toInt then .ok w.toUInt64
  else .error ((code? w).getD .sysInvalidOp)

@[simp] theorem ofCode_toInt (c : Code) : (ofCode c).toInt = c.value := by
  cases c <;> decide

end StatusCodes.ReturnWord
