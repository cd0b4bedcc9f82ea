import StatusCodes.ReturnWord

/-!
# Outcomes and their words

Sending an outcome as a word and reading it again gives the outcome back, but for the two outcomes
that have no word of their own. The other way round, a word that is read and sent again comes back
if it is a result or the value of a failure, and every other word comes back as an invalid
operation. Which case a word falls under is decided by the number that it is, in all its 64 bits:
a code is found for it only if it is that code's value.
-/

namespace StatusCodes.ReturnWord

variable {w : Int64} {v : UInt64} {c : Code}

/-- The word is the value of a failure. -/
def IsFailure (w : Int64) : Prop :=
  ∃ c : Code, c ≠ .success ∧ w.toInt = c.raw.toInt

/-! ## Words in 32 bits -/

theorem toInt_toInt32 (hlow : Int32.minValue.toInt ≤ w.toInt)
    (hhigh : w.toInt ≤ Int32.maxValue.toInt) : w.toInt32.toInt = w.toInt := by
  have hmin : Int32.minValue.toInt = -2 ^ 31 := by decide
  have hmax : Int32.maxValue.toInt = 2 ^ 31 - 1 := by decide
  rw [Int64.toInt_toInt32]
  exact Int.bmod_eq_of_le (by omega) (by omega)

theorem narrowed?_eq_some_iff {n : Int32} : narrowed? w = some n ↔ n.toInt = w.toInt := by
  rw [narrowed?]
  constructor
  · intro h
    split at h
    · next hfits =>
        cases h
        exact toInt_toInt32 hfits.1 hfits.2
    · cases h
  · intro h
    have hlow : Int32.minValue.toInt ≤ w.toInt := h ▸ n.minValue_le_toInt
    have hhigh : w.toInt ≤ Int32.maxValue.toInt := h ▸ n.toInt_le
    have hsame : w.toInt32 = n := Int32.toInt_inj.mp ((toInt_toInt32 hlow hhigh).trans h.symm)
    rw [if_pos ⟨hlow, hhigh⟩, hsame]

/-- A word has a code exactly if it is the code's value. -/
theorem code?_eq_some_iff : code? w = some c ↔ w.toInt = c.value := by
  rw [code?, Option.bind_eq_some_iff]
  constructor
  · rintro ⟨n, hn, hc⟩
    rw [← narrowed?_eq_some_iff.mp hn]
    exact Code.ofValue?_eq_some_iff.mp hc
  · intro h
    refine ⟨c.raw, narrowed?_eq_some_iff.mpr ?_, ?_⟩
    · rw [Code.raw_toInt, h]
    · rw [Code.raw_toInt, Code.ofValue?_value]

/-! ## Sending -/

theorem toInt_toInt64 (h : (v.toNat : Int) ≤ Int64.maxValue.toInt) : v.toInt64.toInt = v.toNat := by
  have hmax : Int64.maxValue.toInt = 2 ^ 63 - 1 := by decide
  have hbits : 2 * v.toBitVec.toNat < 2 ^ 64 := by
    rw [UInt64.toNat_toBitVec]
    omega
  exact BitVec.toInt_eq_toNat_of_lt hbits

theorem encode_ok (h : (v.toNat : Int) ≤ Int64.maxValue.toInt) : encode (.ok v) = v.toInt64 := by
  have hmax : Int64.maxValue.toInt = 2 ^ 63 - 1 := by decide
  have hpow : Nat.pow 2 63 = 2 ^ 63 := rfl
  exact if_pos (by omega)

theorem encode_ok_of_lt (h : Int64.maxValue.toInt < v.toNat) :
    encode (.ok v) = ofCode .genInvalidParam := by
  have hmax : Int64.maxValue.toInt = 2 ^ 63 - 1 := by decide
  have hpow : Nat.pow 2 63 = 2 ^ 63 := rfl
  exact if_neg (by omega)

theorem encode_error (h : c ≠ .success) : encode (.error c) = ofCode c := by
  cases c with
  | success => exact absurd rfl h
  | _ => rfl

theorem encode_error_success : encode (.error .success) = ofCode .sysInvalidOp := rfl

/-- Every outcome is sent as the result that it is or as the value of some failure. -/
theorem encode_cases (r : Except Code UInt64) :
    (∃ v, r = .ok v ∧ encode r = v.toInt64 ∧ (encode r).toInt = v.toNat) ∨
      ∃ c : Code, c ≠ .success ∧ encode r = ofCode c := by
  cases r with
  | ok v =>
      by_cases h : (v.toNat : Int) ≤ Int64.maxValue.toInt
      · exact .inl ⟨v, rfl, encode_ok h, by rw [encode_ok h, toInt_toInt64 h]⟩
      · exact .inr ⟨_, by decide, encode_ok_of_lt (by omega)⟩
  | error c =>
      by_cases h : c = .success
      · subst h
        exact .inr ⟨_, by decide, encode_error_success⟩
      · exact .inr ⟨c, h, encode_error h⟩

/-! ## Reading -/

theorem decode_of_le (h : 0 ≤ w.toInt) : decode w = .ok w.toUInt64 :=
  if_pos h

theorem decode_of_lt (h : w.toInt < 0) :
    decode w = .error ((code? w).getD .sysInvalidOp) :=
  if_neg (by omega)

theorem decode_toInt64 (h : (v.toNat : Int) ≤ Int64.maxValue.toInt) :
    decode v.toInt64 = .ok v := by
  rw [decode_of_le (by rw [toInt_toInt64 h]; omega), UInt64.toUInt64_toInt64]

theorem decode_of_toInt_eq (hc : c ≠ .success) (h : w.toInt = c.raw.toInt) :
    decode w = .error c := by
  rw [Code.raw_toInt] at h
  rw [decode_of_lt (by rw [h]; exact Code.value_neg_iff.mpr hc), code?_eq_some_iff.mpr h,
    Option.getD_some]

theorem decode_ofCode (h : c ≠ .success) : decode (ofCode c) = .error c :=
  decode_of_toInt_eq h (by rw [ofCode_toInt, Code.raw_toInt])

/-- A negative word that is no failure's value reads as an invalid operation. -/
theorem decode_of_not_isFailure (hneg : w.toInt < 0) (h : ¬ IsFailure w) :
    decode w = .error .sysInvalidOp := by
  cases hcode : code? w with
  | none => rw [decode_of_lt hneg, hcode, Option.getD_none]
  | some c =>
      have hw : w.toInt = c.value := code?_eq_some_iff.mp hcode
      have hc : c ≠ .success := Code.value_neg_iff.mp (hw ▸ hneg)
      exact absurd ⟨c, hc, by rw [hw, Code.raw_toInt]⟩ h

theorem decode_ne_error_success (w : Int64) : decode w ≠ .error .success := by
  by_cases hneg : w.toInt < 0
  · by_cases h : IsFailure w
    · obtain ⟨c, hc, hw⟩ := h
      rw [decode_of_toInt_eq hc hw]
      intro hsame
      exact hc (Except.error.inj hsame)
    · rw [decode_of_not_isFailure hneg h]
      intro hsame
      cases hsame
  · rw [decode_of_le (by omega)]
    intro hsame
    cases hsame

/-! ## There and back -/

theorem encode_decode_of_le (h : 0 ≤ w.toInt) : encode (decode w) = w := by
  have hsame : w.toUInt64.toNat = w.toInt.toNat :=
    Int64.toNat_toUInt64_of_le (Int64.le_iff_toInt_le.mpr h)
  have hmost : w.toInt ≤ Int64.maxValue.toInt := w.toInt_le
  rw [decode_of_le h, encode_ok (by omega), Int64.toInt64_toUInt64]

theorem encode_decode_of_isFailure (h : IsFailure w) : encode (decode w) = w := by
  obtain ⟨c, hc, hw⟩ := h
  rw [decode_of_toInt_eq hc hw, encode_error hc, ← Int64.toInt_inj, ofCode_toInt, hw,
    Code.raw_toInt]

/-- A word is negative exactly if it was sent for a failure, or for an outcome without a word. -/
theorem encode_lt_iff (r : Except Code UInt64) :
    (encode r).toInt < 0 ↔ ∃ c, decode (encode r) = .error c := by
  rcases encode_cases r with ⟨v, -, hword, hvalue⟩ | ⟨c, hc, hword⟩
  · rw [decode_of_le (by omega)]
    constructor
    · omega
    · rintro ⟨c, h⟩
      cases h
  · rw [hword, decode_ofCode hc, ofCode_toInt]
    exact ⟨fun _ => ⟨c, rfl⟩, fun _ => Code.value_neg_iff.mpr hc⟩

/-- An outcome that is sent as a word is read as itself, if it is a result up to the largest signed
word or a failure. A larger result is read as an invalid parameter, and the failure that is none as
an invalid operation. A failure is read exactly from the negative ones of the words that are sent,
and it is never `success`. A word that is read and sent again comes back if it is a result or a
failure's value, and every other word comes back as an invalid operation. A word beyond 32 bits is
not taken for a code, whatever its lower half is. -/
theorem outcome_word_round_trip :
    (∀ v : UInt64, (v.toNat : Int) ≤ Int64.maxValue.toInt → decode (encode (.ok v)) = .ok v) ∧
    (∀ c : Code, c ≠ .success → decode (encode (.error c)) = .error c) ∧
    (∀ v : UInt64, Int64.maxValue.toInt < v.toNat →
      decode (encode (.ok v)) = .error .genInvalidParam) ∧
    decode (encode (.error .success)) = .error .sysInvalidOp ∧
    (∀ r, (encode r).toInt < 0 ↔ ∃ c, decode (encode r) = .error c) ∧
    (∀ w : Int64, 0 ≤ w.toInt ∨ IsFailure w → encode (decode w) = w) ∧
    (∀ w : Int64, ¬ (0 ≤ w.toInt ∨ IsFailure w) →
      (encode (decode w)).toInt = Code.sysInvalidOp.raw.toInt) ∧
    (∀ w : Int64, decode w ≠ .error .success) ∧
    ∀ w : Int64, w.toInt < Int32.minValue.toInt ∨ Int32.maxValue.toInt < w.toInt →
      ∀ c, decode w = .error c → c = .sysInvalidOp := by
  refine ⟨?_, ?_, ?_, ?_, encode_lt_iff, ?_, ?_, decode_ne_error_success, ?_⟩
  · intro v hv
    rw [encode_ok hv, decode_toInt64 hv]
  · intro c hc
    rw [encode_error hc, decode_ofCode hc]
  · intro v hv
    rw [encode_ok_of_lt hv, decode_ofCode (by decide)]
  · rw [encode_error_success, decode_ofCode (by decide)]
  · intro w hw
    rcases hw with hresult | hfailure
    · exact encode_decode_of_le hresult
    · exact encode_decode_of_isFailure hfailure
  · intro w hw
    rw [not_or] at hw
    rw [decode_of_not_isFailure (by omega) hw.2, encode_error (by decide), ofCode_toInt,
      Code.raw_toInt]
  · intro w hw c hc
    have hnarrow : narrowed? w = none := if_neg (by omega)
    have hcode : code? w = none := by rw [code?, hnarrow, Option.bind_none]
    by_cases hneg : w.toInt < 0
    · rw [decode_of_lt hneg, hcode, Option.getD_none] at hc
      exact (Except.error.inj hc).symm
    · rw [decode_of_le (by omega)] at hc
      cases hc

/-- The lower half of this word is the value of `genInvalidParam`. -/
example : decode (-0x100000001) = .error .sysInvalidOp := rfl

end StatusCodes.ReturnWord
