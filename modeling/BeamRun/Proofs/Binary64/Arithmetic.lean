import BeamRun.Proofs.Binary64.Rounding

namespace BeamRun.Binary64

/-- The number without its sign; of no meaning for infinities and NaNs. -/
def absolute (x : Binary64) : ℚ := valueAt x.magnitude

theorem absolute_nonneg (x : Binary64) : 0 ≤ x.absolute := valueAt_nonneg _

theorem denominator_pos (x : Binary64) : 0 < x.denominator := by
  rw [denominator, Nat.shiftLeft_eq]
  positivity

theorem numerator_div_denominator (x : Binary64) : (x.numerator / x.denominator : ℚ) = x.absolute := by
  have shifted := shifted_ratio x.significand 1 (-x.exponent)
  rw [neg_neg, Nat.cast_one, div_one, zpow_neg, div_inv_eq_mul] at shifted
  exact shifted

theorem magnitude_lt (x : Binary64) : x.magnitude < signBit := Nat.mod_lt _ (by decide)

theorem isNegative_ofMagnitude (negative : Bool) {m : ℕ} (bound : m < signBit) :
    (ofMagnitude negative m).isNegative = negative := by
  rw [signBit_eq] at bound
  cases negative with
  | false =>
    simp only [isNegative, ofMagnitude, signBit_eq, UInt64.toNat_ofNat', Bool.false_eq_true, if_false]
    exact decide_eq_false (by omega)
  | true =>
    simp only [isNegative, ofMagnitude, signBit_eq, UInt64.toNat_ofNat', if_true]
    exact decide_eq_true (by omega)

theorem ofMagnitude_magnitude (x : Binary64) : ofMagnitude x.isNegative x.magnitude = x := by
  have small := x.bits.toNat_lt
  have bits : (if x.isNegative then signBit + x.magnitude else x.magnitude) = x.bits.toNat := by
    by_cases set : signBit ≤ x.bits.toNat
    · have negative : x.isNegative = true := decide_eq_true set
      rw [if_pos negative, magnitude]
      simp only [signBit_eq] at *
      omega
    · have positive : x.isNegative = false := decide_eq_false set
      rw [positive, if_neg Bool.false_ne_true, magnitude]
      simp only [signBit_eq] at *
      omega
  rw [ofMagnitude, bits, UInt64.ofNat_toNat]

theorem infinityMagnitude_lt : infinityMagnitude < signBit := by decide

theorem rounded_lt_signBit (q : ℚ) : rounded q < signBit :=
  (rounded_le_infinity q).trans_lt infinityMagnitude_lt

theorem ofRatio_eq (negative : Bool) {num den : ℕ} (positive : 0 < den) :
    ofRatio negative num den = ofMagnitude negative (rounded (num / den)) := by
  rw [ofRatio, nearestMagnitude_eq_rounded positive]

theorem magnitude_ofNat (n : ℕ) : (ofNat n).magnitude = rounded n := by
  rw [ofNat, ofRatio_eq false one_pos, magnitude_ofMagnitude _ (rounded_lt_signBit _), Nat.cast_one,
    div_one]

theorem isNegative_ofNat (n : ℕ) : (ofNat n).isNegative = false :=
  isNegative_ofMagnitude false ((nearestMagnitude_le_infinity n 1).trans_lt infinityMagnitude_lt)

theorem mul_eq (x y : Binary64) :
    x.mul y = ofMagnitude (x.isNegative != y.isNegative) (rounded (x.absolute * y.absolute)) := by
  rw [mul, ofRatio_eq _ (Nat.mul_pos x.denominator_pos y.denominator_pos), Nat.cast_mul, Nat.cast_mul,
    mul_div_mul_comm, numerator_div_denominator, numerator_div_denominator]

theorem div_eq {x y : Binary64} (finite : x.isFinite = true) (nonzero : y.absolute ≠ 0) :
    x.div y = ofMagnitude (x.isNegative != y.isNegative) (rounded (x.absolute / y.absolute)) := by
  have positive : 0 < y.numerator := by
    refine Nat.pos_of_ne_zero fun zero => nonzero ?_
    rw [← numerator_div_denominator, zero, Nat.cast_zero, zero_div]
  rw [div, if_pos finite, ofRatio_eq _ (Nat.mul_pos x.denominator_pos positive), Nat.cast_mul,
    Nat.cast_mul, ← div_div_div_eq, numerator_div_denominator, numerator_div_denominator]

theorem isFinite_iff (x : Binary64) : x.isFinite = true ↔ x.magnitude < infinityMagnitude :=
  decide_eq_true_iff

/-- Fifty-three binary digits have a place at every exponent from the unit up. -/
theorem exists_valueAt {a j : ℕ} (few : a < 2 * hiddenBit) (low : j ≤ 971) :
    ∃ m < infinityMagnitude, valueAt m = a * 2 ^ j := by
  rcases Nat.eq_zero_or_pos a with rfl | positive
  · exact ⟨0, by decide, by simp [valueAt_zero]⟩
  have short : a.log2 < 53 := (Nat.log2_lt positive.ne').mpr (by simpa [hiddenBit_eq] using few)
  have filled : hiddenBit ≤ a * 2 ^ (52 - a.log2) ∧ a * 2 ^ (52 - a.log2) < 2 * hiddenBit := by
    have least := Nat.mul_le_mul_right (2 ^ (52 - a.log2)) (Nat.log2_self_le positive.ne')
    have greatest := Nat.mul_lt_mul_of_pos_right (Nat.lt_log2_self (n := a))
      (Nat.two_pow_pos (52 - a.log2))
    rw [← Nat.pow_add] at least greatest
    rw [show a.log2 + (52 - a.log2) = 52 by omega] at least
    rw [show a.log2 + 1 + (52 - a.log2) = 53 by omega] at greatest
    exact ⟨least, greatest⟩
  refine ⟨(j + 1022 + a.log2) * hiddenBit + a * 2 ^ (52 - a.log2), ?_, ?_⟩
  · have field : (j + 1022 + a.log2) * hiddenBit ≤ 2045 * hiddenBit :=
      Nat.mul_le_mul_right _ (by omega)
    simp only [infinityMagnitude]
    omega
  · rw [valueAt_of_units (.inl filled.1) filled.2.le]
    push_cast
    rw [mul_assoc, ← zpow_natCast, ← zpow_natCast, ← zpow_add₀ two_ne_zero]
    congr 2
    omega

theorem absolute_ofNat {n a j : ℕ} (same : n = a * 2 ^ j) (few : a < 2 * hiddenBit) (low : j ≤ 971) :
    (ofNat n).absolute = n := by
  obtain ⟨m, finite, value⟩ := exists_valueAt few low
  have cast : (n : ℚ) = valueAt m := by
    rw [value, same]
    push_cast
    rfl
  rw [absolute, magnitude_ofNat, cast, rounded_valueAt finite]

end BeamRun.Binary64
