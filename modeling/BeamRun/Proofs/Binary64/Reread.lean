import BeamRun.Proofs.Decimal.Shortest
import BeamRun.Proofs.Json.Number

/-! Numbers that were written and are read again: finite ones stay finite and keep their sign, and those
with few digits are the same again. -/

namespace BeamRun

open Json.Numeral Decimal

namespace Binary64

/-- The digits that a document writes for a number other than zero, and where their point stands. -/
def printed (x : Binary64) : Decimal := written (shortest .even x)

/-- What a reader makes of a number that a document writes. -/
def reread (x : Binary64) : Binary64 :=
  if x.magnitude = 0 then x
  else signed x.isNegative (scaled x.printed.coefficient x.printed.exponent)

/-- So few digits, so near the point, that the reader does not round on the way. -/
def Short (x : Binary64) : Prop :=
  x.magnitude ≠ 0 → x.printed.coefficient < 2 * hiddenBit ∧ x.printed.exponent.natAbs ≤ 22

instance (x : Binary64) : Decidable x.Short := inferInstanceAs (Decidable (_ → _))

/-! The steps of the reader as exact values rounded once. -/

variable {x y : Binary64}

theorem isNegative_mul (x y : Binary64) : (x.mul y).isNegative = (x.isNegative != y.isNegative) := by
  rw [mul_eq, isNegative_ofMagnitude _ (rounded_lt_signBit _)]

theorem magnitude_mul (x y : Binary64) : (x.mul y).magnitude = rounded (x.absolute * y.absolute) := by
  rw [mul_eq, magnitude_ofMagnitude _ (rounded_lt_signBit _)]

theorem isNegative_div (finite : x.isFinite = true) (nonzero : y.absolute ≠ 0) :
    (x.div y).isNegative = (x.isNegative != y.isNegative) := by
  rw [div_eq finite nonzero, isNegative_ofMagnitude _ (rounded_lt_signBit _)]

theorem magnitude_div (finite : x.isFinite = true) (nonzero : y.absolute ≠ 0) :
    (x.div y).magnitude = rounded (x.absolute / y.absolute) := by
  rw [div_eq finite nonzero, magnitude_ofMagnitude _ (rounded_lt_signBit _)]

/-- A number that can be represented bounds what rounding makes of all numbers up to it. -/
theorem rounded_le_magnitude (finite : y.isFinite = true) {q : ℚ} (nonnegative : 0 ≤ q)
    (le : q ≤ y.absolute) : rounded q ≤ y.magnitude := by
  have fixed : rounded y.absolute = y.magnitude := rounded_valueAt ((isFinite_iff y).mp finite)
  rw [← fixed]
  exact rounded_mono nonnegative le

theorem isFinite_ofNat {n : ℕ} (bound : n < 0x10000000000000000) : (ofNat n).isFinite = true := by
  have short : n.log2 < 1023 := by
    rcases Nat.eq_zero_or_pos n with rfl | positive
    · decide
    · have few : n.log2 < 64 := (Nat.log2_lt positive.ne').mpr (by omega)
      omega
  exact isFinite_ofMagnitude _ (nearestMagnitude_one_lt short)

theorem absolute_ofNat_mono {n m : ℕ} (le : n ≤ m) : (ofNat n).absolute ≤ (ofNat m).absolute := by
  rw [absolute, absolute, magnitude_ofNat, magnitude_ofNat]
  exact valueAt_strictMono.monotone (rounded_mono n.cast_nonneg (Nat.cast_le.mpr le))

theorem one_le_absolute_ofNat {n : ℕ} (positive : 1 ≤ n) : 1 ≤ (ofNat n).absolute := by
  have one : (ofNat 1).absolute = 1 := by
    exact_mod_cast absolute_ofNat (show 1 = 1 * 2 ^ 0 by decide) (by decide) (by decide)
  rw [← one]
  exact absolute_ofNat_mono positive

theorem one_le_roundedPowerOfTen (k : ℕ) : 1 ≤ (roundedPowerOfTen k).absolute :=
  one_le_absolute_ofNat (Nat.pow_pos (by decide))

theorem isNegative_roundedPowerOfTen (k : ℕ) : (roundedPowerOfTen k).isNegative = false :=
  isNegative_ofNat _

theorem isFinite_div (finite : x.isFinite = true) (least : 1 ≤ y.absolute) :
    (x.div y).isFinite = true := by
  have nonzero : y.absolute ≠ 0 := by linarith
  rw [isFinite_iff, magnitude_div finite nonzero]
  refine (rounded_le_magnitude finite ?_ ?_).trans_lt ((isFinite_iff x).mp finite)
  · exact div_nonneg x.absolute_nonneg y.absolute_nonneg
  · exact div_le_self x.absolute_nonneg least

end Binary64

namespace Json.Numeral

open Binary64

variable {c : ℕ} {e : ℤ}

theorem scaled_of_negative (least : -308 ≤ e) (most : e < 0) :
    scaled c e = (ofNat c).div (roundedPowerOfTen (-e).toNat) := by
  rw [scaled, if_neg (by omega), if_neg (by omega), if_pos least]

theorem scaled_of_small (least : -616 ≤ e) (most : e < -308) :
    scaled c e =
      ((ofNat c).div (roundedPowerOfTen 308)).div (roundedPowerOfTen (-(e + 308)).toNat) := by
  rw [scaled, if_neg (by omega), if_neg (by omega), if_neg (by omega), if_pos least]

theorem roundedPowerOfTen_ne_zero (k : ℕ) : (roundedPowerOfTen k).absolute ≠ 0 := by
  have least := one_le_roundedPowerOfTen k
  linarith

/-- Divisions take a number of 64 bits neither beyond the greatest number nor below zero. -/
theorem scaled_of_neg (bound : c < 0x10000000000000000) (least : -616 ≤ e) (most : e < 0) :
    (scaled c e).isFinite = true ∧ (scaled c e).isNegative = false := by
  have start := isFinite_ofNat bound
  have quotient {x : Binary64} (finite : x.isFinite = true) (positive : x.isNegative = false) (k : ℕ) :
      (x.div (roundedPowerOfTen k)).isFinite = true ∧
        (x.div (roundedPowerOfTen k)).isNegative = false := by
    refine ⟨isFinite_div finite (one_le_roundedPowerOfTen k), ?_⟩
    rw [isNegative_div finite (roundedPowerOfTen_ne_zero k), positive, isNegative_roundedPowerOfTen]
    rfl
  rcases Int.lt_or_le e (-308) with small | moderate
  · obtain ⟨finite, positive⟩ := quotient start (isNegative_ofNat c) 308
    rw [scaled_of_small least small]
    exact quotient finite positive _
  · rw [scaled_of_negative moderate most]
    exact quotient start (isNegative_ofNat c) _

/-- Bounds on the coefficients of decimals beyond `10 ^ 289`. -/
def greatestCoefficient (e : ℕ) : ℕ :=
  (if e < 292 then 1 <<< 1023 else 17976931348623157 * powerOfTen 292) / powerOfTen e

theorem greatestCoefficient_all :
    ((List.range' 290 19).all fun e => (scaled (greatestCoefficient e) e).isFinite) = true := by
  decide +kernel

theorem scaled_of_nonneg (least : 0 ≤ e) (most : e ≤ 308) :
    (scaled c e).magnitude =
        rounded ((ofNat c).absolute * (roundedPowerOfTen e.toNat).absolute) ∧
      (scaled c e).isNegative = false := by
  rw [scaled, if_neg (by omega), if_pos least, magnitude_mul, isNegative_mul, isNegative_ofNat,
    isNegative_roundedPowerOfTen]
  exact ⟨rfl, rfl⟩

theorem scaled_of_le_greatest {e : ℕ} (bound : c ≤ greatestCoefficient e) (least : 290 ≤ e)
    (most : e ≤ 308) : (scaled c e).isFinite = true := by
  have greatest : (scaled (greatestCoefficient e) e).isFinite = true :=
    List.all_eq_true.mp greatestCoefficient_all e (List.mem_range'_1.mpr (by omega))
  rw [isFinite_iff, (scaled_of_nonneg e.cast_nonneg (by omega)).1] at greatest ⊢
  refine lt_of_le_of_lt (rounded_mono ?_ ?_) greatest
  · exact mul_nonneg (absolute_nonneg _) (absolute_nonneg _)
  · exact mul_le_mul_of_nonneg_right (absolute_ofNat_mono bound) (absolute_nonneg _)

theorem log2_lt_of_le {n k : ℕ} (positive : 0 < n) (le : n ≤ 2 ^ k) : n.log2 < k + 1 :=
  (Nat.log2_lt positive.ne').mpr (le.trans_lt (Nat.pow_lt_pow_right (by decide) k.lt_succ_self))

theorem absolute_ofNat_le {n : ℕ} (positive : 0 < n) (short : n.log2 < 1023) :
    (ofNat n).absolute ≤ 2 * n := by
  have least : 2 ^ n.log2 ≤ n := Nat.log2_self_le positive.ne'
  have power : 2 ^ (n.log2 + 1) = 2 ^ (n.log2 + 1 - min (n.log2 + 1) 971) * 2 ^ min (n.log2 + 1) 971 := by
    rw [← Nat.pow_add, Nat.sub_add_cancel (Nat.min_le_left _ _)]
  have few : 2 ^ (n.log2 + 1 - min (n.log2 + 1) 971) < 2 * hiddenBit :=
    Nat.pow_lt_pow_right (by decide) (show _ < 53 by omega)
  calc (ofNat n).absolute
    _ ≤ (ofNat (2 ^ (n.log2 + 1))).absolute := absolute_ofNat_mono Nat.lt_log2_self.le
    _ = (2 ^ (n.log2 + 1) : ℕ) := absolute_ofNat power few (Nat.min_le_right _ _)
    _ ≤ (2 * n : ℕ) := by
      rw [Nat.pow_succ']
      exact Nat.cast_le.mpr (Nat.mul_le_mul_left 2 least)
    _ = 2 * n := by push_cast; rfl

theorem scaled_of_moderate {e : ℕ} (positive : 0 < c) (most : e ≤ 308)
    (bound : (c * 10 ^ e : ℚ) ≤ 2 ^ (1021 : ℤ)) : (scaled c e).isFinite = true := by
  have power : 0 < powerOfTen e := Nat.pow_pos (by decide)
  have product : ((c * powerOfTen e : ℕ) : ℚ) = c * 10 ^ e := by
    rw [Nat.cast_mul, cast_powerOfTen]
  have whole : c * powerOfTen e ≤ 2 ^ 1021 := by
    rw [← product] at bound
    exact_mod_cast bound
  have short {n : ℕ} (some : 0 < n) (le : n ≤ c * powerOfTen e) : n.log2 < 1023 := by
    have few : n.log2 < 1021 + 1 := log2_lt_of_le some (le.trans whole)
    omega
  have left := absolute_ofNat_le positive (short positive (Nat.le_mul_of_pos_right c power))
  have right := absolute_ofNat_le power (short power (Nat.le_mul_of_pos_left _ positive))
  have top : (ofNat (2 ^ 52 * 2 ^ 971)).absolute = (2 ^ 52 * 2 ^ 971 : ℕ) :=
    absolute_ofNat rfl (by decide) le_rfl
  have finite : (ofNat (2 ^ 52 * 2 ^ 971)).isFinite = true := by decide +kernel
  rw [isFinite_iff, (scaled_of_nonneg e.cast_nonneg (by omega)).1]
  refine (rounded_le_magnitude finite ?_ ?_).trans_lt ((isFinite_iff _).mp finite)
  · exact mul_nonneg (absolute_nonneg _) (absolute_nonneg _)
  · rw [top]
    calc (ofNat c).absolute * (roundedPowerOfTen e).absolute
      _ ≤ 2 * c * (2 * powerOfTen e) :=
        mul_le_mul left right (absolute_nonneg _) (by positivity)
      _ = 2 ^ 2 * (c * powerOfTen e : ℕ) := by
        push_cast
        ring
      _ ≤ 2 ^ 2 * (2 ^ 1021 : ℕ) :=
        mul_le_mul_of_nonneg_left (Nat.cast_le.mpr whole) (by norm_num)
      _ = (2 ^ 52 * 2 ^ 971 : ℕ) := by
        rw [Nat.cast_mul, Nat.cast_pow, Nat.cast_pow, Nat.cast_pow, Nat.cast_two, ← pow_add, ← pow_add]

variable {x : Binary64}

theorem shortest_greatest (greatest : x.magnitude = infinityMagnitude - 1) :
    shortest .even x = ⟨17976931348623157, 292⟩ := by
  rw [← ofMagnitude_magnitude x, greatest]
  cases x.isNegative
  · decide +kernel
  · decide +kernel

/-- The last number before the greatest one ends half way before the bound on greatest coefficients. -/
theorem halfway_le_of_smaller (finite : x.isFinite = true)
    (smaller : x.magnitude ≠ infinityMagnitude - 1) :
    halfway x.magnitude ≤ (17976931348623157 * powerOfTen 292 : ℕ) := by
  have below : x.magnitude ≤ infinityMagnitude - 2 := by
    have bound := (isFinite_iff x).mp finite
    omega
  have count : units (infinityMagnitude - 2) = 9007199254740990 := by decide +kernel
  have exponent : unitExponent (infinityMagnitude - 2) = 971 := by decide +kernel
  have less : 18014398509481981 * 2 ^ 970 ≤ 17976931348623157 * powerOfTen 292 := by decide +kernel
  calc halfway x.magnitude
    _ ≤ halfway (infinityMagnitude - 2) := halfway_mono below
    _ = (18014398509481981 * 2 ^ 970 : ℕ) := by
      rw [halfway, count, exponent, zpow_ofNat, pow_succ 2 970, Nat.cast_mul, Nat.cast_pow]
      push_cast
      generalize (2 : ℚ) ^ 970 = power
      ring
    _ ≤ (17976931348623157 * powerOfTen 292 : ℕ) := Nat.cast_le.mpr less

theorem cast_one_shiftLeft (n : ℕ) : ((1 <<< n : ℕ) : ℚ) = 2 ^ (n : ℤ) := by
  rw [Nat.one_shiftLeft, Nat.cast_pow, Nat.cast_two, zpow_natCast]

theorem shortest_coefficient_le (finite : x.isFinite = true) (nonzero : x.magnitude ≠ 0) {e : ℕ}
    (exponent : (shortest .even x).exponent = e) :
    (shortest .even x).coefficient ≤ greatestCoefficient e := by
  have power : 0 < powerOfTen e := Nat.pow_pos (by decide)
  have product : (((shortest .even x).coefficient * powerOfTen e : ℕ) : ℚ) =
      (shortest .even x).rational := by
    rw [Nat.cast_mul, cast_powerOfTen, rational, exponent, zpow_natCast]
  rw [greatestCoefficient, Nat.le_div_iff_mul_le power]
  by_cases greatest : x.magnitude = infinityMagnitude - 1
  · rw [shortest_greatest greatest] at exponent ⊢
    obtain rfl : 292 = e := Int.ofNat.inj exponent
    rw [if_neg (lt_irrefl 292)]
  · rw [← Nat.cast_le (α := ℚ), product]
    by_cases small : e < 292
    · have moderate : binaryDigits x ≤ 1023 := by
        have most := (binaryDigits_bounds finite nonzero).2.1
        have seventeen := shortest_exponent_of_greatest .even finite nonzero
        omega
      rw [if_pos small, cast_one_shiftLeft]
      calc (shortest .even x).rational
        _ ≤ 2 ^ binaryDigits x := (shortest_lt .even finite nonzero).le
        _ ≤ 2 ^ ((1023 : ℕ) : ℤ) := zpow_le_zpow_right₀ one_le_two moderate
    · rw [if_neg small]
      exact (shortest_le_halfway .even finite nonzero).trans (halfway_le_of_smaller finite greatest)

theorem scaled_shortest (finite : x.isFinite = true) (nonzero : x.magnitude ≠ 0) :
    (scaled (shortest .even x).coefficient (shortest .even x).exponent).isFinite = true ∧
      (scaled (shortest .even x).coefficient (shortest .even x).exponent).isNegative = false := by
  obtain ⟨least, most⟩ := shortest_exponent_bounds .even finite nonzero
  have bound := shortest_coefficient_lt .even finite nonzero
  rcases Int.lt_or_le (shortest .even x).exponent 0 with small | whole
  · exact scaled_of_neg bound (by omega) small
  · refine ⟨?_, (scaled_of_nonneg whole most).2⟩
    obtain ⟨e, exponent⟩ := Int.eq_ofNat_of_zero_le whole
    rw [exponent] at most ⊢
    by_cases moderate : binaryDigits x ≤ 1021
    · refine scaled_of_moderate (shortest_coefficient_pos .even finite nonzero) (by omega) ?_
      calc ((shortest .even x).coefficient * 10 ^ e : ℚ)
        _ = (shortest .even x).rational := by rw [rational, exponent, zpow_natCast]
        _ ≤ 2 ^ binaryDigits x := (shortest_lt .even finite nonzero).le
        _ ≤ 2 ^ (1021 : ℤ) := zpow_le_zpow_right₀ one_le_two moderate
    · have early := (shortest_spec .even finite nonzero).1
      rw [topExponent, ceilingExponent, exponent] at early
      exact scaled_of_le_greatest (shortest_coefficient_le finite nonzero exponent) (by omega)
        (by omega)

end Json.Numeral

namespace Binary64

variable {x y : Binary64}

theorem eq_of_magnitude (sign : x.isNegative = y.isNegative) (same : x.magnitude = y.magnitude) :
    x = y := by
  rw [← ofMagnitude_magnitude x, ← ofMagnitude_magnitude y, sign, same]

theorem magnitude_signed (negative : Bool) (x : Binary64) :
    (signed negative x).magnitude = x.magnitude := by
  unfold signed
  split
  · exact magnitude_ofMagnitude _ x.magnitude_lt
  · rfl

theorem isNegative_signed (negative : Bool) (positive : x.isNegative = false) :
    (signed negative x).isNegative = negative := by
  cases negative with
  | false => exact positive
  | true =>
    refine (isNegative_ofMagnitude _ x.magnitude_lt).trans ?_
    rw [positive]
    rfl

theorem printed_bounds (finite : x.isFinite = true) (nonzero : x.magnitude ≠ 0) :
    1 ≤ x.printed.coefficient ∧ x.printed.coefficient < 0x10000000000000000 ∧
      -616 ≤ x.printed.exponent ∧ x.printed.exponent ≤ 308 := by
  have positive := shortest_coefficient_pos .even finite nonzero
  have bound := written_coefficient_lt (shortest_coefficient_lt .even finite nonzero)
  obtain ⟨least, most⟩ := shortest_exponent_bounds .even finite nonzero
  have power (k : ℕ) : 0 < powerOfTen k := Nat.pow_pos (by decide)
  refine ⟨?_, bound, ?_⟩
  · unfold printed written
    split
    · exact Nat.mul_pos positive (power _)
    · exact positive
  · unfold printed
    rcases written_exponent (shortest .even x) with one | ⟨same, -⟩ <;> omega

theorem scaled_printed (finite : x.isFinite = true) (nonzero : x.magnitude ≠ 0) :
    (scaled x.printed.coefficient x.printed.exponent).isFinite = true ∧
      (scaled x.printed.coefficient x.printed.exponent).isNegative = false := by
  unfold printed
  rcases written_exponent (shortest .even x) with one | ⟨-, same⟩
  · have bound := written_coefficient_lt (shortest_coefficient_lt .even finite nonzero)
    rw [one]
    exact scaled_of_neg bound (by decide) (by decide)
  · rw [same]
    exact scaled_shortest finite nonzero

theorem isFinite_reread (finite : x.isFinite = true) : x.reread.isFinite = true := by
  unfold reread
  split
  · exact finite
  · next nonzero =>
    have read := (scaled_printed finite nonzero).1
    rw [isFinite_iff] at read ⊢
    rwa [magnitude_signed]

theorem isNegative_reread (finite : x.isFinite = true) : x.reread.isNegative = x.isNegative := by
  unfold reread
  split
  · rfl
  · next nonzero => exact isNegative_signed _ (scaled_printed finite nonzero).2

theorem zero_le_reread (finite : x.isFinite = true) (nonnegative : zero ≤ x) : zero ≤ x.reread := by
  rw [zero_le_iff finite] at nonnegative
  rcases nonnegative with none | positive
  · rw [reread, if_pos none, zero_le_iff finite]
    exact .inl none
  · rw [zero_le_iff (isFinite_reread finite), isNegative_reread finite]
    exact .inr positive

theorem rational_written (d : Decimal) : (written d).rational = d.rational := by
  unfold written
  split
  · next whole =>
    obtain ⟨n, exponent⟩ := Int.eq_ofNat_of_zero_le whole.2
    simp only [rational, exponent, Nat.cast_mul, cast_powerOfTen, Int.toNat_natCast, pow_succ,
      zpow_neg_one, zpow_natCast]
    ring
  · rfl

theorem absolute_roundedPowerOfTen {k : ℕ} (few : k ≤ 22) : (roundedPowerOfTen k).absolute = 10 ^ k := by
  have split : powerOfTen k = 5 ^ k * 2 ^ k := by
    rw [powerOfTen, Nat.pow_eq, ← Nat.mul_pow]
  have short : 5 ^ k < 2 * hiddenBit :=
    (Nat.pow_le_pow_right (by decide) few).trans_lt (by decide)
  have exact := absolute_ofNat split short (by omega)
  rw [roundedPowerOfTen, exact, cast_powerOfTen]

/-- A coefficient of 53 binary digits and a small power of ten are exact, and rounded once. -/
theorem magnitude_scaled {c : ℕ} {e : ℤ} (short : c < 2 * hiddenBit) (small : e.natAbs ≤ 22) :
    (scaled c e).magnitude = rounded (c * 10 ^ e) := by
  have left : (ofNat c).absolute = c := absolute_ofNat (Nat.mul_one c).symm short (Nat.zero_le _)
  rcases Int.lt_or_le e 0 with down | up
  · have finite : (ofNat c).isFinite = true := by
      simp only [hiddenBit_eq] at short
      exact isFinite_ofNat (by omega)
    rw [scaled_of_negative (by omega) down, magnitude_div finite (roundedPowerOfTen_ne_zero _), left,
      absolute_roundedPowerOfTen (by omega), div_eq_mul_inv, ← zpow_natCast, ← zpow_neg,
      Int.toNat_of_nonneg (by omega), neg_neg]
  · rw [(scaled_of_nonneg up (by omega)).1, left, absolute_roundedPowerOfTen (by omega),
      ← zpow_natCast, Int.toNat_of_nonneg up]

/-- A number whose digits make a coefficient below `2 ^ 53`, with a power of ten between the `-22`nd and
the `22`nd, is the same again. -/
theorem reread_eq_self (finite : x.isFinite = true)
    (short : x.Short) : x.reread = x := by
  by_cases zero : x.magnitude = 0
  · exact if_pos zero
  · obtain ⟨few, small⟩ := short zero
    refine eq_of_magnitude (isNegative_reread finite) ?_
    rw [reread, if_neg zero, magnitude_signed, magnitude_scaled few small]
    change rounded x.printed.rational = _
    rw [printed, rational_written, rounded_shortest .even finite zero]

end Binary64

namespace Json.Numeral

open Binary64

variable {x : Binary64}

theorem wellFormed_ofFinite (finite : x.isFinite = true) : (ofFinite x).WellFormed := by
  unfold ofFinite
  split
  · exact
      { whole_ne_nil := List.cons_ne_nil _ _
        whole_digits := allDigits_zeros 1
        zero_alone := fun _ => rfl
        fraction_digits := allDigits_zeros 1
        exponent_ne_nil := fun _ _ none => by cases none
        exponent_digits := fun _ _ none => by cases none }
  · next nonzero => exact wellFormed_ofDecimal (shortest_coefficient_pos .even finite nonzero) _

theorem realValue_ofFinite (finite : x.isFinite = true) : (ofFinite x).realValue = x.reread := by
  by_cases zero : x.magnitude = 0
  · rw [ofFinite, if_pos zero, reread, if_pos zero]
    rw [← ofMagnitude_magnitude x, zero]
    cases x.isNegative
    · decide
    · decide
  · have range := shortest_exponent_bounds .even finite zero
    rw [ofFinite, if_neg zero, reread, if_neg zero,
      realValue_eq (fits_ofDecimal (shortest_coefficient_lt .even finite zero) (by omega) _),
      negative_ofDecimal, (decimal_ofDecimal _ _).1, (decimal_ofDecimal _ _).2, printed]

theorem value_of_finite (finite : x.isFinite = true) :
    (ofFinite x).value? = some (.real ⟨x.reread, isFinite_reread finite⟩) := by
  have none : (ofFinite x).wholeValue? = none := by
    unfold ofFinite
    split
    · exact no_whole_value (.inl (List.cons_ne_nil _ _))
    · exact no_whole_value_of_decimal _ _
  have read : (ofFinite x).realValue = x.reread := realValue_ofFinite finite
  simp only [value?, none, read, isFinite_reread finite, dite_true]

end Json.Numeral
end BeamRun
