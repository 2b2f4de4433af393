import BeamRun.Json.Value

namespace BeamRun

namespace Binary64

theorem hiddenBit_eq : hiddenBit = 4503599627370496 := rfl

theorem signBit_eq : signBit = 9223372036854775808 := rfl

theorem isNaN_of_isFinite {x : Binary64} (finite : x.isFinite = true) : x.isNaN = false := by
  simp only [isFinite, isNaN, decide_eq_true_eq, decide_eq_false_iff_not] at *
  omega

theorem not_lt_iff {x y : Binary64} (hx : x.isNaN = false) (hy : y.isNaN = false) :
    ¬ y < x ↔ x ≤ y := by
  change ¬ (_ ∧ _ ∧ _) ↔ (_ ∧ _ ∧ _)
  simp only [hx, hy, true_and, Int.not_lt]

theorem not_zero_le_iff {x : Binary64} (hx : x.isNaN = false) : ¬ zero ≤ x ↔ x < zero := by
  rw [← not_lt_iff (by decide) hx, Decidable.not_not]

theorem zero_le_iff {x : Binary64} (finite : x.isFinite = true) :
    zero ≤ x ↔ x.magnitude = 0 ∨ x.isNegative = false := by
  change (_ ∧ _ ∧ _) ↔ _
  have number := isNaN_of_isFinite finite
  have origin : zero.position = 0 := by decide
  rw [origin, position, number]
  cases x.isNegative
  · simp [show zero.isNaN = false by decide]
  · simp [show zero.isNaN = false by decide]

theorem magnitude_ofMagnitude (negative : Bool) {m : Nat} (bound : m < signBit) :
    (ofMagnitude negative m).magnitude = m := by
  rw [signBit_eq] at bound
  simp only [magnitude, ofMagnitude, signBit_eq, UInt64.toNat_ofNat']
  split <;> omega

theorem isFinite_ofMagnitude (negative : Bool) {m : Nat} (bound : m < infinityMagnitude) :
    (ofMagnitude negative m).isFinite = true := by
  have small : m < signBit := by
    simp only [infinityMagnitude, hiddenBit_eq, signBit_eq] at *
    omega
  rw [isFinite, magnitude_ofMagnitude negative small, decide_eq_true bound]

theorem roundHalfEven_le (num den : Nat) : roundHalfEven num den ≤ num / den + 1 := by
  simp only [roundHalfEven]
  split <;> omega

theorem floorLog2_one {n : Nat} (positive : 0 < n) : floorLog2 n 1 = n.log2 := by
  have reached : 1 <<< n.log2 ≤ n := by
    rw [Nat.one_shiftLeft]
    exact Nat.log2_self_le (Nat.ne_of_gt positive)
  have log2_one : Nat.log2 1 = 0 := by decide
  simp [floorLog2, log2_one, reached]

/-- Rounding a whole number of at most 1023 binary digits cannot reach the magnitude of infinity. -/
theorem nearestMagnitude_one_lt {n : Nat} (bound : n.log2 < 1023) :
    nearestMagnitude n 1 < infinityMagnitude := by
  rcases Nat.eq_zero_or_pos n with rfl | positive
  · decide
  have below : n < 2 ^ (n.log2 + 1) := Nat.lt_log2_self
  rw [nearestMagnitude, if_neg (Nat.ne_of_gt positive), floorLog2_one positive]
  -- A whole number has its units digit above the least exponent, so only two cases are left:
  -- digits to fill up behind the units, or digits to round off.
  have exponent : max ((n.log2 : Int) - 52) (-1074) = n.log2 - 52 := by omega
  simp only [exponent, Nat.shiftLeft_eq, Nat.one_mul]
  have significand :
      roundHalfEven (n * 2 ^ (-((n.log2 : Int) - 52)).toNat) (2 ^ ((n.log2 : Int) - 52).toNat) ≤
        2 ^ 53 := by
    refine Nat.le_trans (roundHalfEven_le _ _) (Nat.succ_le_of_lt ?_)
    rw [Nat.div_lt_iff_lt_mul (Nat.two_pow_pos _), ← Nat.pow_add]
    rcases Nat.le_total n.log2 52 with few | many
    · have width : n.log2 + 1 + (-((n.log2 : Int) - 52)).toNat = 53 := by omega
      have none : ((n.log2 : Int) - 52).toNat = 0 := by omega
      rw [none, Nat.add_zero, ← width, Nat.pow_add]
      exact Nat.mul_lt_mul_of_pos_right below (Nat.two_pow_pos _)
    · have width : 53 + ((n.log2 : Int) - 52).toNat = n.log2 + 1 := by omega
      have none : (-((n.log2 : Int) - 52)).toNat = 0 := by omega
      rw [none, width, Nat.pow_zero, Nat.mul_one]
      exact below
  simp only [infinityMagnitude, hiddenBit_eq]
  omega

theorem isFinite_ofInt {i : Int} (bound : i.natAbs.log2 < 1023) : (ofInt i).isFinite = true :=
  isFinite_ofMagnitude _ (nearestMagnitude_one_lt bound)

end Binary64

theorem Number.isFinite_toBinary64 (n : Number) : n.toBinary64.isFinite = true := by
  cases n with
  | real x => exact x.property
  | whole n =>
    rcases n with ⟨n, least, greatest⟩
    have small : n.natAbs < 2 ^ 65 := by omega
    refine Binary64.isFinite_ofInt ?_
    rcases Nat.eq_zero_or_pos n.natAbs with zero | positive
    · simp [zero]
    · exact Nat.lt_trans ((Nat.log2_lt (Nat.ne_of_gt positive)).mpr small) (by decide)

end BeamRun
