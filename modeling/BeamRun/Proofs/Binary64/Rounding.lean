import Mathlib.Algebra.Order.Field.Power
import Mathlib.Data.Rat.Cast.Order
import Mathlib.Tactic.FieldSimp
import Mathlib.Tactic.Linarith
import Mathlib.Tactic.Positivity
import Mathlib.Tactic.Ring
import BeamRun.Proofs.Binary64

/-! Rounding to the nearest number: up to which ratio the result stays below a bound. That rounding is
monotone, fixes what it can represent and depends on the value of the ratio alone follows from it. -/

namespace BeamRun.Binary64

/-- Exponent of the unit in the last place of the number at a magnitude. -/
def unitExponent (m : ℕ) : ℤ := (max (m / hiddenBit) 1 : ℕ) - 1075

/-- How many of these units the number is. -/
def units (m : ℕ) : ℕ := if m < hiddenBit then m else hiddenBit + m % hiddenBit

def valueAt (m : ℕ) : ℚ := units m * 2 ^ unitExponent m

/-- Half way from the number at a magnitude to the next one. -/
def halfway (m : ℕ) : ℚ := (units m + 1 / 2) * 2 ^ unitExponent m

theorem units_of_lt {m : ℕ} (small : m < hiddenBit) : units m = m := if_pos small

theorem units_of_le {m : ℕ} (large : hiddenBit ≤ m) : units m = hiddenBit + m % hiddenBit :=
  if_neg (Nat.not_lt.mpr large)

theorem unitExponent_of_lt {m : ℕ} (small : m < hiddenBit) : unitExponent m = (0 : ℕ) - 1074 := by
  rw [unitExponent, Nat.div_eq_of_lt small]
  rfl

theorem units_lt (m : ℕ) : units m < 2 * hiddenBit := by
  rcases Nat.lt_or_ge m hiddenBit with small | large
  · rw [units_of_lt small]
    omega
  · have rest : m % hiddenBit < hiddenBit := Nat.mod_lt m (by decide)
    rw [units_of_le large]
    omega

/-- A magnitude counts the units that its exponent field has passed, and its own. -/
theorem magnitude_split (m : ℕ) :
    ∃ e : ℕ, m = e * hiddenBit + units m ∧ unitExponent m = e - 1074 ∧
      (hiddenBit ≤ units m ∨ e = 0) := by
  rcases Nat.lt_or_ge m hiddenBit with small | large
  · refine ⟨0, ?_, unitExponent_of_lt small, .inr rfl⟩
    rw [units_of_lt small, Nat.zero_mul, Nat.zero_add]
  · refine ⟨m / hiddenBit - 1, ?_, ?_, .inl ?_⟩
    · rw [units_of_le large]
      simp only [hiddenBit_eq] at *
      omega
    · simp only [unitExponent, hiddenBit_eq] at *
      omega
    · rw [units_of_le large]
      exact Nat.le_add_right _ _

/-- The units may be so many that they fill the next exponent. -/
theorem valueAt_of_units {e s : ℕ} (low : hiddenBit ≤ s ∨ e = 0) (high : s ≤ 2 * hiddenBit) :
    valueAt (e * hiddenBit + s) = s * 2 ^ ((e : ℤ) - 1074) := by
  rcases Nat.lt_or_ge (e * hiddenBit + s) hiddenBit with small | large
  · have none : e = 0 := by
      simp only [hiddenBit_eq] at *
      omega
    subst none
    rw [valueAt, unitExponent_of_lt small, units_of_lt small, Nat.zero_mul, Nat.zero_add]
  · rcases Nat.lt_or_eq_of_le high with below | full
    · have exponent : unitExponent (e * hiddenBit + s) = e - 1074 := by
        simp only [unitExponent, hiddenBit_eq] at *
        omega
      have count : units (e * hiddenBit + s) = s := by
        rw [units_of_le large]
        simp only [hiddenBit_eq] at *
        omega
      rw [valueAt, exponent, count]
    · subst full
      have exponent : unitExponent (e * hiddenBit + 2 * hiddenBit) = 1 + ((e : ℤ) - 1074) := by
        simp only [unitExponent, hiddenBit_eq]
        omega
      have count : units (e * hiddenBit + 2 * hiddenBit) = hiddenBit := by
        rw [units_of_le large]
        simp only [hiddenBit_eq]
        omega
      rw [valueAt, exponent, count, zpow_add₀ two_ne_zero, zpow_one]
      push_cast
      ring

theorem roundHalfEven_le_iff {num den : ℕ} (positive : 0 < den) (m : ℕ) :
    roundHalfEven num den ≤ m ↔
      (num / den : ℚ) < m + 1 / 2 ∨ (num / den : ℚ) = m + 1 / 2 ∧ m % 2 = 0 := by
  have scale : (0 : ℚ) < den := by exact_mod_cast positive
  have less : (num : ℚ) < (m + 1 / 2) * den ↔ 2 * num < (2 * m + 1) * den := by
    rw [← Nat.cast_lt (α := ℚ)]
    push_cast
    constructor <;> intro h <;> linarith
  have same : (num : ℚ) = (m + 1 / 2) * den ↔ 2 * num = (2 * m + 1) * den := by
    rw [← Nat.cast_inj (R := ℚ)]
    push_cast
    constructor <;> intro h <;> linarith
  rw [div_lt_iff₀ scale, div_eq_iff scale.ne', less, same, roundHalfEven]
  have parts : den * (num / den) + num % den = num := Nat.div_add_mod num den
  have rest : num % den < den := Nat.mod_lt num positive
  generalize num / den = floor at *
  generalize num % den = remainder at *
  subst parts
  have expand : (2 * m + 1) * den = 2 * (den * m) + den := by ring
  rw [expand]
  rcases Nat.lt_trichotomy floor m with below | here | above
  · have step : den * floor + den ≤ den * m := by
      rw [← Nat.mul_succ]
      exact Nat.mul_le_mul_left den below
    have left :
        (if 2 * remainder < den ∨ 2 * remainder = den ∧ floor % 2 = 0 then floor else floor + 1) ≤ m := by
      by_cases down : 2 * remainder < den ∨ 2 * remainder = den ∧ floor % 2 = 0
      · rw [if_pos down]
        omega
      · rw [if_neg down]
        omega
    exact iff_of_true left (.inl (by omega))
  · subst here
    by_cases down : 2 * remainder < den ∨ 2 * remainder = den ∧ floor % 2 = 0
    · rw [if_pos down]
      omega
    · rw [if_neg down]
      omega
  · have step : den * m + den ≤ den * floor := by
      rw [← Nat.mul_succ]
      exact Nat.mul_le_mul_left den above
    have left :
        ¬ (if 2 * remainder < den ∨ 2 * remainder = den ∧ floor % 2 = 0 then floor else floor + 1) ≤ m := by
      by_cases down : 2 * remainder < den ∨ 2 * remainder = den ∧ floor % 2 = 0
      · rw [if_pos down]
        omega
      · rw [if_neg down]
        omega
    exact iff_of_false left (by omega)

theorem roundHalfEven_mono {num den num' den' : ℕ} (positive : 0 < den) (positive' : 0 < den')
    (le : (num / den : ℚ) ≤ num' / den') : roundHalfEven num den ≤ roundHalfEven num' den' := by
  rw [roundHalfEven_le_iff positive]
  rcases (roundHalfEven_le_iff positive' _).mp le_rfl with below | ⟨same, even⟩
  · exact .inl (lt_of_le_of_lt le below)
  · exact (lt_or_eq_of_le (le.trans_eq same)).imp_right fun here => ⟨here, even⟩

theorem two_zpow_pos (k : ℤ) : (0 : ℚ) < 2 ^ k := zpow_pos two_pos k

/-- Shifts on both sides of a ratio multiply it by a power of two. -/
theorem shifted_ratio (num den : ℕ) (k : ℤ) :
    ((num <<< (-k).toNat : ℕ) / (den <<< k.toNat : ℕ) : ℚ) = (num / den : ℚ) / 2 ^ k := by
  rw [Nat.shiftLeft_eq, Nat.shiftLeft_eq]
  push_cast
  rcases Int.le_total 0 k with up | down
  · obtain ⟨n, rfl⟩ := Int.eq_ofNat_of_zero_le up
    simp [div_div]
  · obtain ⟨n, rfl⟩ := Int.exists_eq_neg_ofNat down
    simp [div_eq_mul_inv]
    ring

theorem log2_bounds {n : ℕ} (positive : 0 < n) :
    (2 : ℚ) ^ (n.log2 : ℤ) ≤ n ∧ (n : ℚ) < 2 ^ ((n.log2 : ℤ) + 1) := by
  constructor
  · have least := Nat.log2_self_le positive.ne'
    rw [zpow_natCast]
    exact_mod_cast least
  · have greatest : n < 2 ^ (n.log2 + 1) := Nat.lt_log2_self
    rw [← Int.natCast_succ, zpow_natCast]
    exact_mod_cast greatest

theorem floorLog2_bounds {num den : ℕ} (numPositive : 0 < num) (denPositive : 0 < den) :
    (2 : ℚ) ^ floorLog2 num den ≤ num / den ∧ (num / den : ℚ) < 2 ^ (floorLog2 num den + 1) := by
  have scale : (0 : ℚ) < den := by exact_mod_cast denPositive
  obtain ⟨numLeast, numGreatest⟩ := log2_bounds numPositive
  obtain ⟨denLeast, denGreatest⟩ := log2_bounds denPositive
  have above : (num / den : ℚ) < 2 ^ ((num.log2 : ℤ) - den.log2 + 1) := by
    rw [div_lt_iff₀ scale]
    calc (num : ℚ)
      _ < 2 ^ ((num.log2 : ℤ) + 1) := numGreatest
      _ = 2 ^ ((num.log2 : ℤ) - den.log2 + 1) * 2 ^ (den.log2 : ℤ) := by
        rw [← zpow_add₀ two_ne_zero]
        congr 1
        ring
      _ ≤ 2 ^ ((num.log2 : ℤ) - den.log2 + 1) * den :=
        mul_le_mul_of_nonneg_left denLeast (two_zpow_pos _).le
  have below : (2 : ℚ) ^ ((num.log2 : ℤ) - den.log2 - 1) ≤ num / den := by
    rw [le_div_iff₀ scale]
    calc (2 : ℚ) ^ ((num.log2 : ℤ) - den.log2 - 1) * den
      _ ≤ 2 ^ ((num.log2 : ℤ) - den.log2 - 1) * 2 ^ ((den.log2 : ℤ) + 1) :=
        mul_le_mul_of_nonneg_left denGreatest.le (two_zpow_pos _).le
      _ = 2 ^ (num.log2 : ℤ) := by
        rw [← zpow_add₀ two_ne_zero]
        congr 1
        ring
      _ ≤ num := numLeast
  -- The digits of both sides leave two candidates, between which the comparison of shifts decides.
  generalize candidate : (num.log2 : ℤ) - den.log2 = k at *
  have decides : den <<< k.toNat ≤ num <<< (-k).toNat ↔ (2 : ℚ) ^ k ≤ num / den := by
    have shifted : (0 : ℚ) < (den <<< k.toNat : ℕ) := by
      rw [Nat.shiftLeft_eq]
      positivity
    rw [← Nat.cast_le (α := ℚ), ← one_le_div shifted, shifted_ratio, one_le_div (two_zpow_pos k)]
  rw [floorLog2, candidate]
  by_cases reached : den <<< k.toNat ≤ num <<< (-k).toNat
  · simp only [if_pos reached]
    exact ⟨decides.mp reached, above⟩
  · simp only [if_neg reached]
    refine ⟨below, ?_⟩
    rw [sub_add_cancel]
    exact not_le.mp fun least => reached (decides.mpr least)

/-- What rounding a ratio other than zero comes to: so many units of an exponent, which is the least
one or the one that leaves a full significand. -/
theorem nearestMagnitude_eq {num den : ℕ} (numPositive : 0 < num) (denPositive : 0 < den) :
    ∃ (e s : ℕ) (t : ℚ), (num / den : ℚ) = t * 2 ^ ((e : ℤ) - 1074) ∧
      (hiddenBit ≤ t ∨ e = 0) ∧ 0 ≤ t ∧ t < 2 * hiddenBit ∧
      (∀ m : ℕ, s ≤ m ↔ t < m + 1 / 2 ∨ t = m + 1 / 2 ∧ m % 2 = 0) ∧
      nearestMagnitude num den = min (e * hiddenBit + s) infinityMagnitude := by
  have scale : (0 : ℚ) < den := by exact_mod_cast denPositive
  obtain ⟨least, greatest⟩ := floorLog2_bounds numPositive denPositive
  generalize log : floorLog2 num den = k at *
  have hidden : (hiddenBit : ℚ) = 2 ^ (52 : ℤ) := by norm_num [hiddenBit_eq]
  generalize exponent : max (k - 52) (-1074) = E
  have least' : -1074 ≤ E := exponent ▸ le_max_right _ _
  refine ⟨(E + 1074).toNat, roundHalfEven (num <<< (-E).toNat) (den <<< E.toNat),
    (num / den : ℚ) / 2 ^ E, ?_, ?_, ?_, ?_, ?_, ?_⟩
  · rw [Int.toNat_of_nonneg (by omega), add_sub_cancel_right, div_mul_cancel₀ _ (two_zpow_pos E).ne']
  · rcases le_total (k - 52) (-1074) with small | full
    · right
      omega
    · left
      have same : E = k - 52 := exponent ▸ max_eq_left full
      rw [le_div_iff₀ (two_zpow_pos E), hidden, ← zpow_add₀ two_ne_zero, same]
      simpa using least
  · positivity
  · rw [div_lt_iff₀ (two_zpow_pos E), hidden]
    calc (num / den : ℚ)
      _ < 2 ^ (k + 1) := greatest
      _ ≤ 2 ^ (1 + 52 + E) := zpow_le_zpow_right₀ one_le_two (by omega)
      _ = 2 * 2 ^ (52 : ℤ) * 2 ^ E := by rw [zpow_add₀ two_ne_zero, zpow_add₀ two_ne_zero, zpow_one]
  · intro m
    have shifted : 0 < den <<< E.toNat := by
      rw [Nat.shiftLeft_eq]
      positivity
    rw [roundHalfEven_le_iff shifted, shifted_ratio]
  · simp only [nearestMagnitude, if_neg numPositive.ne', log, exponent]

/-- A full significand of a greater exponent is beyond all significands of a smaller one. -/
theorem significands_le {d e : ℕ} (less : d < e) :
    (2 * hiddenBit * 2 ^ ((d : ℤ) - 1074) : ℚ) ≤ hiddenBit * 2 ^ ((e : ℤ) - 1074) := by
  calc (2 * hiddenBit * 2 ^ ((d : ℤ) - 1074) : ℚ)
    _ = hiddenBit * 2 ^ (1 + ((d : ℤ) - 1074)) := by
      rw [zpow_add₀ two_ne_zero, zpow_one]
      ring
    _ ≤ hiddenBit * 2 ^ ((e : ℤ) - 1074) :=
      mul_le_mul_of_nonneg_left (zpow_le_zpow_right₀ one_le_two (by omega)) (Nat.cast_nonneg _)

/-- Rounding stays at or below a magnitude up to half way to the next one, and there if it is even. -/
theorem nearestMagnitude_le_iff {num den m : ℕ} (positive : 0 < den) (finite : m < infinityMagnitude) :
    nearestMagnitude num den ≤ m ↔
      (num / den : ℚ) < halfway m ∨ (num / den : ℚ) = halfway m ∧ m % 2 = 0 := by
  rcases Nat.eq_zero_or_pos num with rfl | numPositive
  · have ahead : ((0 : ℕ) / den : ℚ) < halfway m := by
      rw [Nat.cast_zero, zero_div, halfway]
      positivity
    exact iff_of_true (Nat.zero_le m) (.inl ahead)
  obtain ⟨e, s, t, ratio, low, nonnegative, high, rounded, result⟩ :=
    nearestMagnitude_eq numPositive positive
  obtain ⟨d, place, exponent, full⟩ := magnitude_split m
  have few := units_lt m
  have fewer : (units m : ℚ) + 1 / 2 < 2 * hiddenBit := by
    have next : (units m : ℚ) + 1 ≤ 2 * hiddenBit := by exact_mod_cast few
    linarith
  have sMost : s ≤ 2 * hiddenBit := by
    rw [rounded]
    push_cast
    exact .inl (by linarith)
  have sLeast : hiddenBit ≤ s ∨ e = 0 := by
    refine low.imp_left fun least => ?_
    by_contra missing
    have less : (s : ℚ) + 1 ≤ hiddenBit := by exact_mod_cast Nat.not_le.mp missing
    have within := (rounded s).mp le_rfl
    rcases within with below | ⟨same, -⟩ <;> linarith
  have ratioHalfway (k : ℤ) (same : unitExponent m = k) : halfway m = (units m + 1 / 2) * 2 ^ k := by
    rw [halfway, same]
  rw [result, min_le_iff, or_iff_left (Nat.not_le.mpr finite), ratio]
  rcases Nat.lt_trichotomy d e with less | same | more
  · -- The ratio has a greater exponent than the magnitude.
    have least : (hiddenBit : ℚ) ≤ t := low.resolve_right (by omega)
    have beyond : halfway m < t * 2 ^ ((e : ℤ) - 1074) := by
      calc halfway m
        _ < 2 * hiddenBit * 2 ^ ((d : ℤ) - 1074) := by
          rw [ratioHalfway _ exponent]
          exact mul_lt_mul_of_pos_right fewer (two_zpow_pos _)
        _ ≤ hiddenBit * 2 ^ ((e : ℤ) - 1074) := significands_le less
        _ ≤ t * 2 ^ ((e : ℤ) - 1074) := mul_le_mul_of_nonneg_right least (two_zpow_pos _).le
    refine iff_of_false ?_ ?_
    · have first : (d + 1) * hiddenBit ≤ e * hiddenBit := Nat.mul_le_mul_right _ less
      have room := sLeast.resolve_right (by omega)
      rw [Nat.add_mul, Nat.one_mul] at first
      omega
    · rintro (below | ⟨same, -⟩) <;> linarith
  · subst same
    have ordered : t * 2 ^ ((d : ℤ) - 1074) < halfway m ↔ t < units m + 1 / 2 := by
      rw [ratioHalfway _ exponent, mul_lt_mul_iff_left₀ (two_zpow_pos _)]
    have equal : t * 2 ^ ((d : ℤ) - 1074) = halfway m ↔ t = units m + 1 / 2 := by
      rw [ratioHalfway _ exponent, mul_left_inj' (two_zpow_pos _).ne']
    have even : m % 2 = 0 ↔ units m % 2 = 0 := by
      simp only [hiddenBit_eq] at place
      omega
    have count : d * hiddenBit + s ≤ m ↔ s ≤ units m := by omega
    rw [ordered, equal, even, count, rounded]
  · -- The magnitude has a greater exponent than the ratio.
    have least : hiddenBit ≤ units m := full.resolve_right (by omega)
    have short : t * 2 ^ ((e : ℤ) - 1074) < halfway m := by
      calc t * 2 ^ ((e : ℤ) - 1074)
        _ < 2 * hiddenBit * 2 ^ ((e : ℤ) - 1074) := mul_lt_mul_of_pos_right high (two_zpow_pos _)
        _ ≤ hiddenBit * 2 ^ ((d : ℤ) - 1074) := significands_le more
        _ ≤ halfway m := by
          rw [ratioHalfway _ exponent]
          have count : (hiddenBit : ℚ) ≤ units m := Nat.cast_le.mpr least
          exact mul_le_mul_of_nonneg_right (by linarith) (two_zpow_pos _).le
    refine iff_of_true ?_ (.inl short)
    have last : (e + 1) * hiddenBit ≤ d * hiddenBit := Nat.mul_le_mul_right _ more
    rw [Nat.add_mul, Nat.one_mul] at last
    omega

theorem nearestMagnitude_le_infinity (num den : ℕ) : nearestMagnitude num den ≤ infinityMagnitude := by
  unfold nearestMagnitude
  split
  · exact Nat.zero_le _
  · exact Nat.min_le_right _ _

theorem nearestMagnitude_mono {num den num' den' : ℕ} (positive : 0 < den) (positive' : 0 < den')
    (le : (num / den : ℚ) ≤ num' / den') : nearestMagnitude num den ≤ nearestMagnitude num' den' := by
  rcases Nat.lt_or_ge (nearestMagnitude num' den') infinityMagnitude with finite | infinite
  · rw [nearestMagnitude_le_iff positive finite]
    rcases (nearestMagnitude_le_iff positive' finite).mp le_rfl with below | ⟨same, even⟩
    · exact .inl (lt_of_le_of_lt le below)
    · exact (lt_or_eq_of_le (le.trans_eq same)).imp_right fun here => ⟨here, even⟩
  · exact (nearestMagnitude_le_infinity num den).trans infinite

/-- The magnitude that a number from zero up is rounded to. -/
def rounded (q : ℚ) : ℕ := nearestMagnitude q.num.natAbs q.den

theorem natAbs_num_div_den {q : ℚ} (nonnegative : 0 ≤ q) : (q.num.natAbs / q.den : ℚ) = q := by
  have same : ((q.num.natAbs : ℤ) : ℚ) = q.num := by
    rw [Int.natAbs_of_nonneg (Rat.num_nonneg.mpr nonnegative)]
  rw [← Int.cast_natCast, same, Rat.num_div_den]

theorem nearestMagnitude_eq_rounded {num den : ℕ} (positive : 0 < den) :
    nearestMagnitude num den = rounded (num / den) := by
  have same : (((num / den : ℚ).num.natAbs : ℚ) / (num / den : ℚ).den) = num / den :=
    natAbs_num_div_den (by positivity)
  exact Nat.le_antisymm (nearestMagnitude_mono positive (Rat.den_pos _) same.ge)
    (nearestMagnitude_mono (Rat.den_pos _) positive same.le)

theorem rounded_le_iff {q : ℚ} (nonnegative : 0 ≤ q) {m : ℕ} (finite : m < infinityMagnitude) :
    rounded q ≤ m ↔ q < halfway m ∨ q = halfway m ∧ m % 2 = 0 := by
  rw [rounded, nearestMagnitude_le_iff (Rat.den_pos q) finite, natAbs_num_div_den nonnegative]

theorem rounded_mono {q r : ℚ} (nonnegative : 0 ≤ q) (le : q ≤ r) : rounded q ≤ rounded r := by
  refine nearestMagnitude_mono (Rat.den_pos q) (Rat.den_pos r) ?_
  rwa [natAbs_num_div_den nonnegative, natAbs_num_div_den (nonnegative.trans le)]

theorem rounded_le_infinity (q : ℚ) : rounded q ≤ infinityMagnitude :=
  nearestMagnitude_le_infinity _ _

theorem valueAt_nonneg (m : ℕ) : 0 ≤ valueAt m :=
  mul_nonneg (Nat.cast_nonneg _) (two_zpow_pos _).le

theorem valueAt_zero : valueAt 0 = 0 := by
  rw [valueAt, units_of_lt (by decide), Nat.cast_zero, zero_mul]

theorem valueAt_succ (m : ℕ) : valueAt (m + 1) = (units m + 1) * 2 ^ unitExponent m := by
  obtain ⟨e, place, exponent, full⟩ := magnitude_split m
  have few := units_lt m
  have next : m + 1 = e * hiddenBit + (units m + 1) := by omega
  rw [next, valueAt_of_units (full.imp_left Nat.le_succ_of_le) few, exponent]
  push_cast
  rfl

theorem valueAt_lt_halfway (m : ℕ) : valueAt m < halfway m :=
  mul_lt_mul_of_pos_right (by linarith) (two_zpow_pos _)

theorem halfway_lt_valueAt_succ (m : ℕ) : halfway m < valueAt (m + 1) := by
  rw [valueAt_succ]
  exact mul_lt_mul_of_pos_right (by linarith) (two_zpow_pos _)

theorem valueAt_strictMono : StrictMono valueAt :=
  strictMono_nat_of_lt_succ fun m => (valueAt_lt_halfway m).trans (halfway_lt_valueAt_succ m)

theorem halfway_eq_middle (m : ℕ) : halfway m = (valueAt m + valueAt (m + 1)) / 2 := by
  rw [valueAt_succ, valueAt, halfway]
  ring

theorem halfway_eq_add (m : ℕ) : halfway m = valueAt m + 2 ^ unitExponent m / 2 := by
  rw [halfway, valueAt]
  ring

theorem halfway_mono : Monotone halfway := by
  intro m n le
  have first := valueAt_strictMono.monotone le
  have second := valueAt_strictMono.monotone (Nat.succ_le_succ le)
  rw [halfway_eq_middle, halfway_eq_middle]
  linarith

/-- A number between the two half ways around a magnitude rounds to it; on one of them, if it is even. -/
theorem rounded_eq_of_between {q : ℚ} {m : ℕ} (finite : m + 1 < infinityMagnitude)
    (least : halfway m < q ∨ halfway m = q ∧ m % 2 = 1)
    (greatest : q < halfway (m + 1) ∨ q = halfway (m + 1) ∧ (m + 1) % 2 = 0) :
    rounded q = m + 1 := by
  have nonnegative : 0 ≤ q := by
    have start := (valueAt_nonneg m).trans (valueAt_lt_halfway m).le
    rcases least with above | ⟨same, -⟩ <;> linarith
  refine Nat.le_antisymm ((rounded_le_iff nonnegative finite).mpr greatest) ?_
  rw [Nat.succ_le_iff, ← Nat.not_le, rounded_le_iff nonnegative (by omega)]
  rintro (below | ⟨same, even⟩)
  · rcases least with above | ⟨same, -⟩ <;> linarith
  · rcases least with above | ⟨-, odd⟩
    · linarith
    · omega

theorem rounded_valueAt {m : ℕ} (finite : m < infinityMagnitude) : rounded (valueAt m) = m := by
  cases m with
  | zero =>
    have start := (rounded_le_iff (valueAt_nonneg 0) finite).mpr (.inl (valueAt_lt_halfway 0))
    exact Nat.le_zero.mp start
  | succ m =>
    exact rounded_eq_of_between finite (.inl (halfway_lt_valueAt_succ m))
      (.inl (valueAt_lt_halfway (m + 1)))

end BeamRun.Binary64
