import BeamRun.Proofs.Binary64.Accuracy

/-! The finite numbers that are nearest to a rational: rounding makes one of them, and all of them are
as near as one rounding leaves it. -/

namespace BeamRun.Binary64

def rational (x : Binary64) : ℚ := if x.isNegative then -x.absolute else x.absolute

theorem rational_of_nonneg {x : Binary64} (positive : x.isNegative = false) :
    x.rational = x.absolute := by
  rw [rational, positive, if_neg Bool.false_ne_true]

theorem rational_of_negative {x : Binary64} (negative : x.isNegative = true) :
    x.rational = -x.absolute := by
  rw [rational, negative, if_pos rfl]

theorem abs_rational (x : Binary64) : |x.rational| = x.absolute := by
  rw [rational]
  split
  · rw [abs_neg, abs_of_nonneg x.absolute_nonneg]
  · exact abs_of_nonneg x.absolute_nonneg

theorem rational_le_of_le {x y : Binary64} (le : x ≤ y) : x.rational ≤ y.rational := by
  obtain ⟨-, -, positions⟩ := le
  unfold position at positions
  cases signX : x.isNegative with
  | false =>
    rw [rational_of_nonneg signX]
    cases signY : y.isNegative with
    | false =>
      simp only [signX, signY, Bool.false_eq_true, if_false, Int.ofNat_le] at positions
      rw [rational_of_nonneg signY]
      exact valueAt_strictMono.monotone positions
    | true =>
      simp only [signX, signY, Bool.false_eq_true, if_false, if_true] at positions
      have zeroX : x.magnitude = 0 := by omega
      have zeroY : y.magnitude = 0 := by omega
      rw [rational_of_negative signY, absolute, absolute, zeroX, zeroY, valueAt_zero, neg_zero]
  | true =>
    rw [rational_of_negative signX]
    cases signY : y.isNegative with
    | false =>
      rw [rational_of_nonneg signY]
      exact (neg_nonpos.mpr x.absolute_nonneg).trans y.absolute_nonneg
    | true =>
      simp only [signX, signY, if_true, neg_le_neg_iff, Int.ofNat_le] at positions
      rw [rational_of_negative signY]
      exact neg_le_neg (valueAt_strictMono.monotone positions)

/-- No finite number is nearer; half way between two of them both are. -/
structure IsNearest (x : Binary64) (q : ℚ) : Prop where
  finite : x.isFinite = true
  least : ∀ y : Binary64, y.isFinite = true → |x.rational - q| ≤ |y.rational - q|

section Rounding

variable {q : ℚ}

theorem le_halfway_rounded (nonneg : 0 ≤ q) (finite : rounded q < infinityMagnitude) :
    q ≤ halfway (rounded q) := by
  rcases (rounded_le_iff nonneg finite).mp le_rfl with less | ⟨same, -⟩
  · exact less.le
  · exact same.le

theorem halfway_le_of_rounded (nonneg : 0 ≤ q) {m : ℕ} (finite : rounded q < infinityMagnitude)
    (below : m < rounded q) : halfway m ≤ q := by
  by_contra less
  have early := (rounded_le_iff nonneg (below.trans finite)).mpr (.inl (not_le.mp less))
  omega

/-- Of all magnitudes the one that rounding picks is nearest. -/
theorem rounded_nearest (nonneg : 0 ≤ q) (finite : rounded q < infinityMagnitude) (m : ℕ) :
    |valueAt (rounded q) - q| ≤ |valueAt m - q| := by
  rcases Nat.lt_trichotomy m (rounded q) with less | same | more
  · obtain ⟨k, here⟩ := Nat.exists_eq_add_of_lt less
    have step := halfway_le_of_rounded nonneg finite (show m + k < rounded q by omega)
    have up := le_halfway_rounded nonneg finite
    have order := valueAt_strictMono.monotone (Nat.le_add_right m k)
    have middle := halfway_eq_middle (m + k)
    have next := halfway_lt_valueAt_succ (m + k)
    have own := valueAt_lt_halfway (m + k)
    rw [← here] at middle next
    rw [abs_of_nonpos (a := valueAt m - q) (by linarith), abs_le]
    constructor <;> linarith
  · rw [same]
  · have order := valueAt_strictMono.monotone (Nat.succ_le_of_lt more)
    have up := le_halfway_rounded nonneg finite
    have middle := halfway_eq_middle (rounded q)
    have next := halfway_lt_valueAt_succ (rounded q)
    rw [abs_of_nonneg (a := valueAt m - q) (by linarith), abs_le]
    constructor <;> linarith

theorem rational_ofMagnitude_rounded (q : ℚ) :
    (ofMagnitude false (rounded q)).rational = valueAt (rounded q) := by
  rw [rational_of_nonneg (isNegative_ofMagnitude false (rounded_lt_signBit q)), absolute,
    magnitude_ofMagnitude false (rounded_lt_signBit q)]

theorem isNearest_rounded (nonneg : 0 ≤ q) (finite : rounded q < infinityMagnitude) :
    IsNearest (ofMagnitude false (rounded q)) q where
  finite := isFinite_ofMagnitude false finite
  least y _ := by
    rw [rational_ofMagnitude_rounded]
    refine (rounded_nearest nonneg finite y.magnitude).trans ?_
    change |y.absolute - q| ≤ _
    rw [rational]
    split
    · have least := y.absolute_nonneg
      rw [abs_sub_comm (-_), sub_neg_eq_add, abs_of_nonneg (add_nonneg nonneg least), abs_le]
      constructor <;> linarith
    · exact le_rfl

theorem isNearest_ofRatio {num den : ℕ} (positive : 0 < den)
    (finite : rounded (num / den) < infinityMagnitude) :
    IsNearest (ofRatio false num den) (num / den) := by
  rw [ofRatio_eq false positive]
  exact isNearest_rounded (by positivity) finite

theorem rounded_error (nonneg : 0 ≤ q) (finite : rounded q < infinityMagnitude) :
    |valueAt (rounded q) - q| ≤ q * 2 ^ (-53 : ℤ) + drift := by
  have near := near_rounded_any nonneg finite
  have above := near.above
  have below := near.below
  have part := two_zpow_pos (-53)
  simp only [Within, pow_one, growth, Nat.cast_one, one_mul] at above below
  generalize (2 : ℚ) ^ (-53 : ℤ) = p at *
  rw [abs_le]
  constructor
  · rcases le_total (valueAt (rounded q)) q with less | more
    · have step := mul_le_mul_of_nonneg_right less part.le
      linarith
    · have slack := drift_pos
      have step := mul_nonneg nonneg part.le
      linarith
  · linarith

theorem isFinite_rounded_of_le {n : ℕ} (small : n < 0x10000000000000000) (nonneg : 0 ≤ q)
    (le : q ≤ n) : rounded q < infinityMagnitude := by
  have bound := (isFinite_iff _).mp (isFinite_ofNat small)
  rw [magnitude_ofNat] at bound
  exact (rounded_mono nonneg le).trans_lt bound

theorem IsNearest.error {x : Binary64} (near : IsNearest x q) (nonneg : 0 ≤ q)
    (finite : rounded q < infinityMagnitude) : |x.rational - q| ≤ q * 2 ^ (-53 : ℤ) + drift := by
  have other := near.least _ (isFinite_ofMagnitude false finite)
  rw [rational_ofMagnitude_rounded] at other
  exact other.trans (rounded_error nonneg finite)

theorem rational_div_error {x y : Binary64} (finite : x.isFinite = true)
    (positive : y.isNegative = false) (least : 1 ≤ y.absolute) :
    |(x.div y).rational - x.rational / y.absolute| ≤
      x.absolute / y.absolute * 2 ^ (-53 : ℤ) + drift := by
  have nonzero : y.absolute ≠ 0 := by linarith
  have quotient := isFinite_div finite least
  rw [isFinite_iff, magnitude_div finite nonzero] at quotient
  have error := rounded_error (div_nonneg x.absolute_nonneg y.absolute_nonneg) quotient
  have value : (x.div y).absolute = valueAt (rounded (x.absolute / y.absolute)) := by
    rw [absolute, magnitude_div finite nonzero]
  rw [rational, rational, isNegative_div finite nonzero, positive, Bool.bne_false, value]
  split
  · rwa [neg_div, neg_sub_neg, abs_sub_comm]
  · exact error

end Rounding

end BeamRun.Binary64
