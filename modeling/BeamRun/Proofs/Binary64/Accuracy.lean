import BeamRun.Proofs.Binary64.Reread

/-! How far a number that is read again may be from the one that was written: a few roundings, each of
them relative to the number, or to the least number where digits run out. -/

namespace BeamRun

open Json.Numeral Decimal

namespace Binary64

/-- The factor by which one rounding changes a number with a full significand at most. -/
def growth : ℚ := 1 + 2 ^ (-53 : ℤ)

/-- By how much one rounding changes a number without a full significand at most. -/
def drift : ℚ := 2 ^ (-1075 : ℤ)

theorem drift_pos : 0 < drift := two_zpow_pos _

theorem one_le_growth_pow (k : ℕ) : 1 ≤ growth ^ k :=
  one_le_pow₀ (le_add_of_nonneg_right (two_zpow_pos _).le)

theorem growth_pow_le {k : ℕ} (few : k ≤ 6) : growth ^ k ≤ 1 + 2 ^ (-50 : ℤ) := by
  calc growth ^ k
    _ ≤ growth ^ 6 := pow_le_pow_right₀ (by simpa using one_le_growth_pow 1) few
    _ ≤ 1 + 2 ^ (-50 : ℤ) := by norm_num [growth]

theorem growth_pow_le_two {k : ℕ} (few : k ≤ 6) : growth ^ k ≤ 2 :=
  (growth_pow_le few).trans (by norm_num)

/-- `a` exceeds `b` by `k` roundings of the one kind and `m` of the other at most. -/
def Within (k m : ℕ) (a b : ℚ) : Prop := a ≤ b * growth ^ k + m * drift

variable {a b c d : ℚ} {j k m n : ℕ}

theorem Within.trans (first : Within k m a b) (second : Within j n b c) (few : k ≤ 6) :
    Within (k + j) (m + 2 * n) a c := by
  have positive : 0 ≤ growth ^ k := zero_le_one.trans (one_le_growth_pow k)
  have rest : (n : ℚ) * drift * growth ^ k ≤ n * drift * 2 :=
    mul_le_mul_of_nonneg_left (growth_pow_le_two few) (mul_nonneg n.cast_nonneg drift_pos.le)
  calc a
    _ ≤ b * growth ^ k + m * drift := first
    _ ≤ (c * growth ^ j + n * drift) * growth ^ k + m * drift :=
      add_le_add_left (mul_le_mul_of_nonneg_right second positive) _
    _ = c * growth ^ (k + j) + n * drift * growth ^ k + m * drift := by
      rw [pow_add]
      ring
    _ ≤ c * growth ^ (k + j) + (m + 2 * n : ℕ) * drift := by
      push_cast
      linarith

theorem Within.mul (first : Within k 0 a b) (second : Within j 0 c d) (bNonneg : 0 ≤ b)
    (cNonneg : 0 ≤ c) : Within (k + j) 0 (a * c) (b * d) := by
  have positive : 0 ≤ growth ^ k := zero_le_one.trans (one_le_growth_pow k)
  simp only [Within, Nat.cast_zero, zero_mul, add_zero] at *
  calc a * c
    _ ≤ b * growth ^ k * (d * growth ^ j) := mul_le_mul first second cNonneg (mul_nonneg bNonneg positive)
    _ = b * d * growth ^ (k + j) := by
      rw [pow_add]
      ring

theorem Within.div (first : Within k m a b) (second : Within j 0 d c) (few : j ≤ 6) (bNonneg : 0 ≤ b)
    (cPositive : 0 < c) (dLeast : 1 ≤ d) : Within (k + j) (2 * m) (a / c) (b / d) := by
  have positive : 0 ≤ growth ^ k := zero_le_one.trans (one_le_growth_pow k)
  have slack : 0 ≤ m * drift := mul_nonneg m.cast_nonneg drift_pos.le
  simp only [Within, Nat.cast_zero, zero_mul, add_zero] at second
  have dPositive : 0 < d := zero_lt_one.trans_le dLeast
  have inverse : 1 / c ≤ growth ^ j / d := by
    rw [div_le_div_iff₀ cPositive dPositive]
    linarith
  have rest : growth ^ j / d ≤ 2 := by
    rw [div_le_iff₀ dPositive]
    have bound := growth_pow_le_two few
    linarith
  calc a / c
    _ = a * (1 / c) := by ring
    _ ≤ (b * growth ^ k + m * drift) * (1 / c) :=
      mul_le_mul_of_nonneg_right first (by positivity)
    _ ≤ (b * growth ^ k + m * drift) * (growth ^ j / d) :=
      mul_le_mul_of_nonneg_left inverse (add_nonneg (mul_nonneg bNonneg positive) slack)
    _ = b / d * growth ^ (k + j) + m * drift * (growth ^ j / d) := by
      rw [pow_add]
      ring
    _ ≤ b / d * growth ^ (k + j) + (2 * m : ℕ) * drift := by
      have step := mul_le_mul_of_nonneg_left rest slack
      push_cast
      linarith

/-- Neither of two numbers exceeds the other by more. -/
structure Near (k m : ℕ) (a b : ℚ) : Prop where
  above : Within k m a b
  below : Within k m b a

theorem Near.trans (first : Near k m a b) (second : Near j n b c) (few : k ≤ 6) (fewer : j ≤ 6) :
    Near (k + j) (2 * m + 2 * n) a c := by
  have slack (i : ℕ) : (0 : ℚ) ≤ i * drift := mul_nonneg i.cast_nonneg drift_pos.le
  have above := first.above.trans second.above few
  have below := second.below.trans first.below fewer
  unfold Within at above below
  rw [Nat.add_comm] at below
  push_cast at above below
  constructor
  · have more := slack m
    unfold Within
    push_cast
    linarith
  · have more := slack n
    unfold Within
    push_cast
    linarith

theorem Near.mul (first : Near k 0 a b) (second : Near j 0 c d) (aNonneg : 0 ≤ a) (bNonneg : 0 ≤ b)
    (cNonneg : 0 ≤ c) (dNonneg : 0 ≤ d) : Near (k + j) 0 (a * c) (b * d) :=
  ⟨first.above.mul second.above bNonneg cNonneg, first.below.mul second.below aNonneg dNonneg⟩

theorem Near.div (first : Near k m a b) (second : Near j 0 c d) (few : j ≤ 6) (aNonneg : 0 ≤ a)
    (bNonneg : 0 ≤ b) (cLeast : 1 ≤ c) (dLeast : 1 ≤ d) : Near (k + j) (2 * m) (a / c) (b / d) :=
  ⟨first.above.div second.below few bNonneg (zero_lt_one.trans_le cLeast) dLeast,
    first.below.div second.above few aNonneg (zero_lt_one.trans_le dLeast) cLeast⟩

theorem unit_le_of_full (full : hiddenBit ≤ k) :
    (2 : ℚ) ^ unitExponent k ≤ valueAt k * 2 ^ (-52 : ℤ) := by
  have many : hiddenBit ≤ units k := by
    rw [units_of_le full]
    exact Nat.le_add_right _ _
  have count : (2 : ℚ) ^ (52 : ℤ) ≤ units k := by
    have cast : ((hiddenBit : ℕ) : ℚ) ≤ units k := Nat.cast_le.mpr many
    norm_num [hiddenBit_eq] at cast ⊢
    exact cast
  calc (2 : ℚ) ^ unitExponent k
    _ = 2 ^ (52 : ℤ) * 2 ^ unitExponent k * 2 ^ (-52 : ℤ) := by
      rw [mul_right_comm, ← zpow_add₀ two_ne_zero]
      norm_num
    _ ≤ valueAt k * 2 ^ (-52 : ℤ) := by
      refine mul_le_mul_of_nonneg_right ?_ (two_zpow_pos _).le
      exact mul_le_mul_of_nonneg_right count (two_zpow_pos _).le

theorem unit_le (k : ℕ) :
    (2 : ℚ) ^ unitExponent k ≤ valueAt k * 2 ^ (-52 : ℤ) + 2 * (1 : ℕ) * drift := by
  rcases Nat.lt_or_ge k hiddenBit with few | full
  · have exponent : unitExponent k = -1074 := unitExponent_of_lt few
    have least : (2 : ℚ) * (1 : ℕ) * drift = 2 ^ (-1074 : ℤ) := by
      rw [Nat.cast_one, mul_one, drift, ← zpow_one_add₀ two_ne_zero]
      rfl
    rw [exponent, least]
    exact le_add_of_nonneg_left (mul_nonneg (valueAt_nonneg k) (two_zpow_pos _).le)
  · refine (unit_le_of_full full).trans (le_add_of_nonneg_right ?_)
    exact mul_nonneg (by norm_num) drift_pos.le

/-- Rounding changes a number by half a unit of its neighbours at most. -/
theorem near_rounded {q : ℚ} (nonnegative : 0 ≤ q) (finite : rounded q < infinityMagnitude)
    (unit : ∀ k, k ≤ rounded q → rounded q ≤ k + 1 →
      (2 : ℚ) ^ unitExponent k ≤ valueAt k * 2 ^ (-52 : ℤ) + 2 * m * drift) :
    Near 1 m (valueAt (rounded q)) q := by
  have half : growth ^ 1 = 1 + 2 ^ (-52 : ℤ) / 2 := by norm_num [growth]
  have slack : 0 ≤ m * drift := mul_nonneg m.cast_nonneg drift_pos.le
  have positive := two_zpow_pos (-52)
  generalize (2 : ℚ) ^ (-52 : ℤ) = part at half unit positive
  constructor
  · rw [Within, half]
    cases here : rounded q with
    | zero =>
      rw [valueAt_zero]
      positivity
    | succ k =>
      have below : halfway k ≤ q := by
        refine not_lt.mp fun less => ?_
        have early := (rounded_le_iff nonnegative (by omega)).mpr (.inl less)
        omega
      have own := unit k (by omega) (by omega)
      have next := halfway_eq_middle k
      have first := halfway_eq_add k
      have start : valueAt k * part ≤ q * part :=
        mul_le_mul_of_nonneg_right ((valueAt_lt_halfway k).le.trans below) positive.le
      linarith
  · have above : q ≤ halfway (rounded q) := by
      rcases (rounded_le_iff nonnegative finite).mp le_rfl with less | ⟨same, -⟩
      · exact less.le
      · exact same.le
    have own := unit (rounded q) le_rfl (Nat.le_succ _)
    have first := halfway_eq_add (rounded q)
    rw [Within, half]
    linarith

theorem near_rounded_any {q : ℚ} (nonnegative : 0 ≤ q) (finite : rounded q < infinityMagnitude) :
    Near 1 1 (valueAt (rounded q)) q :=
  near_rounded nonnegative finite fun k _ _ => unit_le k

theorem near_ofNat {i : ℕ} (positive : 1 ≤ i) (finite : (ofNat i).isFinite = true) :
    Near 1 0 (ofNat i).absolute i := by
  rw [isFinite_iff, magnitude_ofNat] at finite
  rw [absolute, magnitude_ofNat]
  refine near_rounded i.cast_nonneg finite fun k _ next => ?_
  have one : rounded ((1 : ℕ) : ℚ) ≤ rounded (i : ℚ) :=
    rounded_mono (Nat.cast_nonneg 1) (Nat.cast_le.mpr positive)
  have full : hiddenBit < rounded ((1 : ℕ) : ℚ) := by
    rw [← magnitude_ofNat]
    decide +kernel
  rw [Nat.cast_zero, mul_zero, zero_mul, add_zero]
  exact unit_le_of_full (by omega)

theorem Within.mono {i l : ℕ} (h : Within k m a b) (bNonneg : 0 ≤ b) (le : k ≤ i) (le' : m ≤ l) :
    Within i l a b := by
  have factor : growth ^ k ≤ growth ^ i :=
    pow_le_pow_right₀ (by simpa using one_le_growth_pow 1) le
  have left : b * growth ^ k ≤ b * growth ^ i := mul_le_mul_of_nonneg_left factor bNonneg
  have right : (m : ℚ) * drift ≤ l * drift :=
    mul_le_mul_of_nonneg_right (Nat.cast_le.mpr le') drift_pos.le
  exact le_trans h (add_le_add left right)

theorem Near.mono {i l : ℕ} (h : Near k m a b) (aNonneg : 0 ≤ a) (bNonneg : 0 ≤ b) (le : k ≤ i)
    (le' : m ≤ l) : Near i l a b :=
  ⟨h.above.mono bNonneg le le', h.below.mono aNonneg le le'⟩

theorem isFinite_roundedPowerOfTen {i : ℕ} (few : i ≤ 308) : (roundedPowerOfTen i).isFinite = true := by
  have greatest : (ofNat (powerOfTen 308)).isFinite = true := by decide +kernel
  rw [isFinite_iff, magnitude_ofNat] at greatest
  rw [isFinite_iff, roundedPowerOfTen, magnitude_ofNat]
  exact (rounded_mono (Nat.cast_nonneg _) (Nat.cast_le.mpr (powerOfTen_mono few))).trans_lt greatest

theorem near_roundedPowerOfTen {i : ℕ} (few : i ≤ 308) :
    Near 1 0 (roundedPowerOfTen i).absolute (10 ^ i) := by
  rw [← cast_powerOfTen]
  exact near_ofNat (Nat.pow_pos (by decide)) (isFinite_roundedPowerOfTen few)

theorem near_div {x : Binary64} (near : Near k m x.absolute b) (few : k ≤ 5) (bNonneg : 0 ≤ b)
    (finite : x.isFinite = true) {i : ℕ} (fewer : i ≤ 308) :
    Near (k + 2) (2 + 4 * m) (x.div (roundedPowerOfTen i)).absolute (b / 10 ^ i) := by
  have least := one_le_roundedPowerOfTen i
  have power : (1 : ℚ) ≤ 10 ^ i := one_le_pow₀ (by norm_num)
  have exact := near.div (near_roundedPowerOfTen fewer) (by decide) x.absolute_nonneg bNonneg least power
  have quotient := isFinite_div finite least
  rw [isFinite_iff, magnitude_div finite (roundedPowerOfTen_ne_zero i)] at quotient
  rw [absolute, magnitude_div finite (roundedPowerOfTen_ne_zero i)]
  have once := near_rounded_any (div_nonneg x.absolute_nonneg (absolute_nonneg _)) quotient
  have both := once.trans exact (by decide) (by omega)
  rwa [show 1 + (k + 1) = k + 2 by ring, show 2 * 1 + 2 * (2 * m) = 2 + 4 * m by ring] at both

theorem div_ten_pow (a : ℚ) {i : ℕ} {e : ℤ} (same : e = -i) : a / 10 ^ i = a * 10 ^ e := by
  rw [same, zpow_neg, zpow_natCast, div_eq_mul_inv]

theorem near_scaled {i : ℕ} {e : ℤ} (positive : 1 ≤ i) (bound : i < 0x10000000000000000)
    (least : -616 ≤ e) (most : e ≤ 308) (finite : (scaled i e).isFinite = true) :
    Near 5 10 (scaled i e).absolute (i * 10 ^ e) := by
  have start := near_ofNat positive (isFinite_ofNat bound)
  have nonneg : (0 : ℚ) ≤ i * 10 ^ e := mul_nonneg i.cast_nonneg (ten_zpow_pos e).le
  rcases Int.lt_or_le e 0 with down | up
  · rcases Int.lt_or_le e (-308) with small | moderate
    · have first := near_div start (by decide) i.cast_nonneg (isFinite_ofNat bound) (le_refl 308)
      have second := near_div first (by decide) (by positivity)
        (isFinite_div (isFinite_ofNat bound) (one_le_roundedPowerOfTen 308))
        (show (-(e + 308)).toNat ≤ 308 by omega)
      rw [div_div, ← pow_add, div_ten_pow _ (show e = -(308 + (-(e + 308)).toNat : ℕ) by omega)] at second
      rw [scaled_of_small least small]
      exact second
    · have first := near_div start (by decide) i.cast_nonneg (isFinite_ofNat bound)
        (show (-e).toNat ≤ 308 by omega)
      rw [div_ten_pow _ (show e = -((-e).toNat : ℕ) by omega)] at first
      rw [scaled_of_negative moderate down]
      exact first.mono (absolute_nonneg _) nonneg (by decide) (by decide)
  · obtain ⟨j, rfl⟩ := Int.eq_ofNat_of_zero_le up
    have exact := start.mul (near_roundedPowerOfTen (show j ≤ 308 by omega)) (absolute_nonneg _)
      i.cast_nonneg (absolute_nonneg _) (by positivity)
    rw [isFinite_iff, (scaled_of_nonneg up most).1] at finite
    rw [absolute, (scaled_of_nonneg up most).1]
    have once := near_rounded_any (mul_nonneg (absolute_nonneg _) (absolute_nonneg _)) finite
    exact (once.trans exact (by decide) (by decide)).mono (valueAt_nonneg _) nonneg (by decide) (by decide)

/-- As many roundings as a number goes through when it is written and read again, in one bound. -/
theorem Near.abs_sub_le (near : Near 6 22 a b) (aNonneg : 0 ≤ a) (bNonneg : 0 ≤ b) :
    |a - b| ≤ b * 2 ^ (-50 : ℤ) + 2 ^ (-1070 : ℤ) := by
  have slack : ((22 : ℕ) : ℚ) * drift ≤ 2 ^ (-1070 : ℤ) := by
    have least : (2 : ℚ) ^ (-1070 : ℤ) = 2 ^ (5 : ℤ) * drift := by
      rw [drift, ← zpow_add₀ two_ne_zero]
      rfl
    rw [least]
    exact mul_le_mul_of_nonneg_right (by norm_num) drift_pos.le
  have rest : 0 ≤ ((22 : ℕ) : ℚ) * drift := mul_nonneg (Nat.cast_nonneg _) drift_pos.le
  have grown {c : ℚ} (nonneg : 0 ≤ c) : c * growth ^ 6 ≤ c * (1 + 2 ^ (-50 : ℤ)) :=
    mul_le_mul_of_nonneg_left (growth_pow_le le_rfl) nonneg
  have above : a ≤ b * growth ^ 6 + (22 : ℕ) * drift := near.above
  have below : b ≤ a * growth ^ 6 + (22 : ℕ) * drift := near.below
  have first := grown bNonneg
  have second := grown aNonneg
  have part := two_zpow_pos (-50)
  rw [abs_le]
  generalize (2 : ℚ) ^ (-50 : ℤ) = p at *
  generalize (2 : ℚ) ^ (-1070 : ℤ) = r at *
  constructor
  · rcases le_total a b with less | more
    · have step := mul_le_mul_of_nonneg_right less part.le
      linarith
    · have step := mul_nonneg bNonneg part.le
      linarith
  · linarith

/-- A number that is read again is as near to the one that was written as a few roundings leave it:
by one part in `2 ^ 50`, or by `2 ^ -1070` where digits run out. -/
theorem reread_accurate {x : Binary64} (finite : x.isFinite = true) :
    |x.reread.absolute - x.absolute| ≤ x.absolute * 2 ^ (-50 : ℤ) + 2 ^ (-1070 : ℤ) := by
  by_cases zero : x.magnitude = 0
  · have nonneg := x.absolute_nonneg
    rw [reread, if_pos zero, sub_self, abs_zero]
    positivity
  have read : x.reread.absolute = (scaled x.printed.coefficient x.printed.exponent).absolute := by
    rw [absolute, reread, if_neg zero, magnitude_signed, absolute]
  obtain ⟨positive, bound, least, most⟩ := printed_bounds finite zero
  have reader := near_scaled positive bound least most (scaled_printed finite zero).1
  change Near 5 10 _ x.printed.rational at reader
  have writer : Near 1 1 x.absolute x.printed.rational := by
    have same : rounded x.printed.rational = x.magnitude := by
      rw [printed, rational_written, rounded_shortest .even finite zero]
    have once := near_rounded_any (q := x.printed.rational)
      (mul_nonneg (Nat.cast_nonneg _) (ten_zpow_pos _).le) (same ▸ (isFinite_iff x).mp finite)
    rwa [same] at once
  have both : Near 6 22 x.reread.absolute x.absolute := by
    rw [read]
    exact reader.trans ⟨writer.below, writer.above⟩ (by decide) (by decide)
  exact both.abs_sub_le x.reread.absolute_nonneg x.absolute_nonneg

end Binary64
end BeamRun
