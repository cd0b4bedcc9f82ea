import StatusCodes.Host
import StatusCodes.Proofs.HostError
import StatusCodes.Proofs.ReturnWord

/-!
# From the host's words to our own

There are several ways to ask for the code of an error number: to look it up, to classify the host
error that carries it, to collect it after a call has failed, and to check the status word of a
call. They agree wherever the table knows the number.

A status word can be handed on as the return word of a system call. Both words are negative for a
failure, but they number failures differently, so a failing word changes on the way. Its verdict
does not: a result arrives as the result that it was, and a failure as a failure.
-/

namespace StatusCodes.Host

variable {w : Int32} {n : Int32} {c : Code}

/-! ## Status words -/

theorem check_of_le (h : 0 ≤ w.toInt) : check w = .ok w.toUInt32 :=
  if_pos h

/-- The fault of a failing status word. -/
def failed (w : Int32) : Fault :=
  .composed (Errno.toCode w) s!"os call failed with errno {-w.toInt}"

theorem check_of_lt (h : w.toInt < 0) : check w = .error (failed w) :=
  if_neg (by omega)

theorem toNat_toUInt32 (h : 0 ≤ w.toInt) : (w.toUInt32.toNat : Int) = w.toInt := by
  have hsame : w.toUInt32.toNat = w.toInt.toNat :=
    Int32.toNat_toUInt32_of_le (Int32.le_iff_toInt_le.mpr h)
  omega

theorem check_eq_ok_iff :
    (∃ v, check w = .ok v ∧ (v.toNat : Int) = w.toInt) ↔ 0 ≤ w.toInt := by
  constructor
  · rintro ⟨v, -, hv⟩
    omega
  · intro h
    exact ⟨w.toUInt32, check_of_le h, toNat_toUInt32 h⟩

/-- The text of the fault gives the number without its sign, for every word. -/
theorem text_failed (h : w.toInt < 0) :
    (failed w).text = "os call failed with errno " ++ toString w.toInt.natAbs := by
  have hnumber : -w.toInt = (w.toInt.natAbs : Int) := by omega
  rw [failed, Fault.text_composed, hnumber]
  rfl

theorem code_failed_ne_success (h : w.toInt < 0) : (failed w).code ≠ .success := by
  intro hsuccess
  have hzero : w = 0 := Errno.toCode_eq_success_iff.mp hsuccess
  rw [hzero] at h
  exact absurd h (by decide)

theorem isError_of_le (h : 0 ≤ w.toInt) : isError w = false := by
  have hnot : ¬ w < 0 := by
    rw [Int32.lt_iff_toInt_lt]
    show ¬ w.toInt < 0
    omega
  exact decide_eq_false hnot

theorem isError_of_lt (h : w.toInt < 0) : isError w = true := by
  have hneg : w < 0 := Int32.lt_iff_toInt_lt.mpr h
  exact decide_eq_true hneg

/-! ## Error numbers -/

/-- Every way of asking for the code of the number gives this code. -/
structure Agrees (n : Int32) (c : Code) : Prop where
  table : Errno.toCode n = c
  error : (HostError.numbered n).code = c
  fault : (HostError.numbered n).fault.code = c
  last : lastError n = c
  word : n ≠ 0 → ∃ f, check (-n.abs) = .error f ∧ f.code = c

theorem agrees_of_lookup (h : Errno.lookup n = some c) : Agrees n c := by
  have hcode := HostError.code_of_lookup h
  refine ⟨Errno.toCode_of_lookup h, hcode, hcode, hcode, ?_⟩
  intro hne
  refine ⟨failed (-n.abs), check_of_lt (Errno.toInt_neg_abs_lt hne), ?_⟩
  apply Errno.toCode_of_lookup
  rw [Errno.lookup_neg_abs, h]

/-- A number and its negative have the same code, and so has the number that the code leads to. Every
way of asking gives the code that the table knows; a number that the table does not know is turned
into an invalid operation, and zero alone into success. The number of a code is never negative and
one that the table knows; it leads back to the code, but for two codes that share theirs with
another. -/
theorem error_numbers_classified_alike :
    (∀ n : Int32, n ≠ Int32.minValue → Errno.lookup (-n) = Errno.lookup n) ∧
    Errno.lookup Int32.minValue = none ∧
    (∀ n : Int32, Errno.toCode n = .success ↔ n = 0) ∧
    (∀ n : Int32, Errno.toCode (Errno.ofCode (Errno.toCode n)) = Errno.toCode n) ∧
    (∀ (n : Int32) (c : Code), Errno.lookup n = some c → Agrees n c) ∧
    (∀ n : Int32, n ≠ 0 → Errno.lookup n = none → Errno.toCode n = .sysInvalidOp) ∧
    (∀ c : Code, 0 ≤ (Errno.ofCode c).toInt ∧ (Errno.lookup (Errno.ofCode c)).isSome = true) ∧
    (∀ c : Code, c ≠ .genNoMemory → c ≠ .deviceNoResponse →
      Errno.toCode (Errno.ofCode c) = c) ∧
    Errno.toCode (Errno.ofCode .genNoMemory) = .memOutOfMemory ∧
    Errno.toCode (Errno.ofCode .deviceNoResponse) = .fsIo := by
  refine ⟨fun n => Errno.lookup_neg, Errno.lookup_minValue, fun n => Errno.toCode_eq_success_iff,
    Errno.toCode_ofCode_toCode, fun n c => agrees_of_lookup, ?_, ?_, ?_,
    Errno.toCode_ofCode _, Errno.toCode_ofCode _⟩
  · intro n _ hunknown
    exact Errno.toCode_of_lookup_eq_none hunknown
  · intro c
    refine ⟨Errno.ofCode_nonneg c, ?_⟩
    rw [Errno.lookup_ofCode, Option.isSome_some]
  · intro c hmemory hresponse
    rw [Errno.toCode_ofCode, Errno.returned_eq_self hmemory hresponse]

/-! ## From a status word to a return word -/

/-- The outcome of a host call for whoever hands it on: the result as a wider word, and of the
fault its code. -/
def outcome (w : Int32) : Except Code UInt64 :=
  ((check w).map UInt32.toUInt64).mapError Fault.code

theorem outcome_of_le (h : 0 ≤ w.toInt) : outcome w = .ok w.toUInt32.toUInt64 := by
  rw [outcome, check_of_le h]
  rfl

theorem outcome_of_lt (h : w.toInt < 0) : outcome w = .error (failed w).code := by
  rw [outcome, check_of_lt h]
  rfl

theorem toNat_widened_le (w : Int32) :
    (w.toUInt32.toUInt64.toNat : Int) ≤ Int64.maxValue.toInt := by
  have hmax : Int64.maxValue.toInt = 2 ^ 63 - 1 := by decide
  have hlt := w.toUInt32.toNat_lt
  rw [UInt32.toNat_toUInt64]
  omega

theorem decode_encode_outcome (w : Int32) :
    ReturnWord.decode (ReturnWord.encode (outcome w)) = outcome w := by
  by_cases h : 0 ≤ w.toInt
  · have hfits := toNat_widened_le w
    rw [outcome_of_le h, ReturnWord.encode_ok hfits, ReturnWord.decode_toInt64 hfits]
  · have hneg : w.toInt < 0 := by omega
    have hcode := code_failed_ne_success hneg
    rw [outcome_of_lt hneg, ReturnWord.encode_error hcode, ReturnWord.decode_ofCode hcode]

theorem toInt_encode_of_le (h : 0 ≤ w.toInt) :
    (ReturnWord.encode (outcome w)).toInt = w.toInt := by
  have hfits := toNat_widened_le w
  rw [outcome_of_le h, ReturnWord.encode_ok hfits, ReturnWord.toInt_toInt64 hfits,
    UInt32.toNat_toUInt64, toNat_toUInt32 h]

theorem toInt_encode_of_lt (h : w.toInt < 0) :
    (ReturnWord.encode (outcome w)).toInt = (failed w).code.value := by
  rw [outcome_of_lt h, ReturnWord.encode_error (code_failed_ne_success h),
    ReturnWord.ofCode_toInt]

/-- A status word that is not negative is the result of its call, and arrives as that number. A
negative one is a fault that is never success and whose text gives the number without its sign; it
arrives as one of the 21 failures. What is read at the end is what was sent, and a word that was a
failure is one at every station. -/
theorem status_word_keeps_verdict (w : Int32) :
    ((∃ v, check w = .ok v ∧ (v.toNat : Int) = w.toInt) ↔ 0 ≤ w.toInt) ∧
    (w.toInt < 0 → ∃ f, check w = .error f ∧ f.code = Errno.toCode w ∧ f.code ≠ .success ∧
      f.text = "os call failed with errno " ++ toString w.toInt.natAbs) ∧
    ReturnWord.decode (ReturnWord.encode (outcome w)) = outcome w ∧
    (0 ≤ w.toInt → (ReturnWord.encode (outcome w)).toInt = w.toInt) ∧
    (w.toInt < 0 → -21 ≤ (ReturnWord.encode (outcome w)).toInt ∧
      (ReturnWord.encode (outcome w)).toInt ≤ -1) ∧
    isError (check w) = isError w ∧
    isError (outcome w) = isError w ∧
    isError (ReturnWord.decode (ReturnWord.encode (outcome w))) = isError w := by
  have hverdict : isError (check w) = isError w ∧ isError (outcome w) = isError w := by
    by_cases h : 0 ≤ w.toInt
    · rw [check_of_le h, outcome_of_le h, isError_of_le h]
      exact ⟨rfl, rfl⟩
    · have hneg : w.toInt < 0 := by omega
      rw [check_of_lt hneg, outcome_of_lt hneg, isError_of_lt hneg]
      exact ⟨rfl, rfl⟩
  refine ⟨check_eq_ok_iff, ?_, decode_encode_outcome w, toInt_encode_of_le, ?_, hverdict.1,
    hverdict.2, ?_⟩
  · intro h
    exact ⟨failed w, check_of_lt h, rfl, code_failed_ne_success h, text_failed h⟩
  · intro h
    have hbounds := Code.value_bounds (failed w).code
    have hneg := Code.value_neg_iff.mpr (code_failed_ne_success h)
    rw [toInt_encode_of_lt h]
    omega
  · rw [decode_encode_outcome]
    exact hverdict.2

/-- The most negative word has no positive counterpart among the words, but its text has the
number. -/
example : (failed Int32.minValue).text = "os call failed with errno 2147483648" := by
  rfl

end StatusCodes.Host
