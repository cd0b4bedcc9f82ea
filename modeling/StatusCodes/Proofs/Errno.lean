import StatusCodes.Errno.Mapping

/-!
# Error numbers and codes, there and back

The table of error numbers is read without the sign of the number, so a number and its negative
have the same code; only the most negative word has no negative to be compared with. From a code
to its number and back is a way that ends at the code itself, but for the two codes that share
their number with a more specific one. The table never gives either of these, so a code that comes
from a number is what it was after it has been turned into a number and back.
-/

namespace StatusCodes.Errno

variable {n : Int32} {m : Nat} {c : Code}

/-! ## The sign -/

theorem toInt_neg_of_ne_minValue (h : n ≠ Int32.minValue) : (-n).toInt = -n.toInt := by
  have hmin : Int32.minValue.toInt = -2 ^ 31 := Int32.toInt_minValue
  have hne : n.toInt ≠ Int32.minValue.toInt := fun hsame => h (Int32.toInt_inj.mp hsame)
  have hlow := n.minValue_le_toInt
  have hhigh := n.toInt_lt
  rw [Int32.toInt_neg]
  exact Int.bmod_eq_of_le (by omega) (by omega)

theorem ne_minValue_of_nonneg (h : 0 ≤ n.toInt) : n ≠ Int32.minValue := by
  rintro rfl
  exact absurd h (by decide)

theorem lookup_neg (h : n ≠ Int32.minValue) : lookup (-n) = lookup n := by
  rw [lookup, lookup, toInt_neg_of_ne_minValue h, Int.natAbs_neg]

theorem lookup_minValue : lookup Int32.minValue = none := rfl

theorem abs_eq (n : Int32) : n.abs = if n.toInt < 0 then -n else n := by
  apply Int32.toBitVec_inj.mp
  rw [Int32.toBitVec_abs, BitVec.abs, BitVec.msb_eq_toInt]
  show (if decide (n.toInt < 0) = true then -n.toBitVec else n.toBitVec) = _
  by_cases h : n.toInt < 0
  · rw [if_pos (decide_eq_true h), if_pos h, Int32.toBitVec_neg]
  · rw [if_neg (by simp [h]), if_neg h]

/-- A number the way a kernel hands it back: this is never positive, and the most negative word is
handed back as it is. -/
theorem neg_abs_eq (n : Int32) : -n.abs = if n.toInt < 0 then n else -n := by
  rw [abs_eq]
  split
  · exact Int32.neg_neg
  · rfl

theorem lookup_neg_abs (n : Int32) : lookup (-n.abs) = lookup n := by
  rw [neg_abs_eq]
  split
  · rfl
  · next h => exact lookup_neg (ne_minValue_of_nonneg (by omega))

theorem toInt_neg_abs_lt (h : n ≠ 0) : (-n.abs).toInt < 0 := by
  have hne : n.toInt ≠ 0 := fun hzero => h (Int32.toInt_inj.mp hzero)
  rw [neg_abs_eq]
  split
  · next hneg => exact hneg
  · next hnonneg =>
      rw [toInt_neg_of_ne_minValue (ne_minValue_of_nonneg (by omega))]
      omega

/-! ## From numbers to codes -/

theorem codeOfMagnitude?_eq_some_success_iff :
    codeOfMagnitude? m = some .success ↔ m = 0 := by
  constructor
  · intro h
    unfold codeOfMagnitude? at h
    split at h
    case h_1 => rfl
    all_goals cases h
  · intro h
    rw [h]
    rfl

theorem lookup_eq_some_success_iff : lookup n = some .success ↔ n = 0 := by
  rw [lookup, codeOfMagnitude?_eq_some_success_iff, Int.natAbs_eq_zero]
  exact Int32.toInt_inj (y := 0)

theorem toCode_of_lookup (h : lookup n = some c) : toCode n = c := by
  rw [toCode, h, Option.getD_some]

theorem toCode_of_lookup_eq_none (h : lookup n = none) : toCode n = .sysInvalidOp := by
  rw [toCode, h, Option.getD_none]

/-- Zero is the one number that stands for success. -/
theorem toCode_eq_success_iff : toCode n = .success ↔ n = 0 := by
  rw [← lookup_eq_some_success_iff]
  cases h : lookup n with
  | none =>
      rw [toCode_of_lookup_eq_none h]
      simp
  | some c =>
      rw [toCode_of_lookup h]
      simp

/-! ## There and back -/

/-- The code that the number of a code leads to: two codes share theirs with another. -/
def returned : Code → Code
  | .genNoMemory => .memOutOfMemory
  | .deviceNoResponse => .fsIo
  | c => c

theorem returned_eq_self (hmemory : c ≠ .genNoMemory) (hresponse : c ≠ .deviceNoResponse) :
    returned c = c := by
  cases c with
  | genNoMemory => exact absurd rfl hmemory
  | deviceNoResponse => exact absurd rfl hresponse
  | _ => rfl

theorem lookup_ofCode (c : Code) : lookup (ofCode c) = some (returned c) := by
  cases c <;> rfl

theorem toCode_ofCode (c : Code) : toCode (ofCode c) = returned c :=
  toCode_of_lookup (lookup_ofCode c)

theorem ofCode_nonneg (c : Code) : 0 ≤ (ofCode c).toInt := by
  cases c <;> decide

/-- The table gives only codes that their own numbers lead back to. -/
theorem returned_of_lookup (h : lookup n = some c) : returned c = c := by
  unfold lookup codeOfMagnitude? at h
  split at h
  all_goals cases h
  all_goals rfl

theorem returned_toCode (n : Int32) : returned (toCode n) = toCode n := by
  cases h : lookup n with
  | none =>
      rw [toCode_of_lookup_eq_none h]
      rfl
  | some c =>
      rw [toCode_of_lookup h]
      exact returned_of_lookup h

theorem toCode_ofCode_toCode (n : Int32) : toCode (ofCode (toCode n)) = toCode n := by
  rw [toCode_ofCode, returned_toCode]

end StatusCodes.Errno
