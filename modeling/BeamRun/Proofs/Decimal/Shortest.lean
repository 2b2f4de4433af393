import BeamRun.Decimal
import BeamRun.Proofs.Binary64.Arithmetic

/-! Shortest decimals: the search finds a grid point, which rounds to the number it was made for and
whose coefficient fits into 64 bits. -/

namespace BeamRun.Decimal

open Binary64

def rational (d : Decimal) : ℚ := d.coefficient * 10 ^ d.exponent

theorem ten_zpow_pos (k : ℤ) : (0 : ℚ) < 10 ^ k := zpow_pos (by norm_num) k

theorem cast_powerOfTen (k : ℕ) : (powerOfTen k : ℚ) = 10 ^ k := by
  rw [powerOfTen, Nat.pow_eq, Nat.cast_pow, Nat.cast_ofNat]

theorem powerOfTen_mono {j k : ℕ} (le : j ≤ k) : powerOfTen j ≤ powerOfTen k :=
  Nat.pow_le_pow_right (by decide) le

theorem zpow_eq_div (b : ℕ) (k : ℤ) : (b : ℚ) ^ k = (b ^ k.toNat : ℕ) / (b ^ (-k).toNat : ℕ) := by
  rcases Int.le_total 0 k with up | down
  · obtain ⟨n, rfl⟩ := Int.eq_ofNat_of_zero_le up
    simp
  · obtain ⟨n, rfl⟩ := Int.exists_eq_neg_ofNat down
    simp

namespace Neighbourhood

variable {n : Neighbourhood} {tie : Tie} {e : ℤ} {c : ℕ}

def lowest (n : Neighbourhood) : ℚ := n.low / n.denominator

def middle (n : Neighbourhood) : ℚ := n.value / n.denominator

def highest (n : Neighbourhood) : ℚ := n.high / n.denominator

def FromLow (n : Neighbourhood) (q : ℚ) : Prop := n.lowest < q ∨ n.closed = true ∧ n.lowest = q

def UpToHigh (n : Neighbourhood) (q : ℚ) : Prop := q < n.highest ∨ n.closed = true ∧ q = n.highest

theorem grid_ratio {den : ℕ} (positive : 0 < den) (a c : ℕ) (e : ℤ) :
    ∃ scale : ℚ, 0 < scale ∧
      ((a * powerOfTen (-e).toNat : ℕ) : ℚ) = (a / den : ℚ) * scale ∧
      ((c * (den * powerOfTen e.toNat) : ℕ) : ℚ) = c * 10 ^ e * scale := by
  have power : (0 : ℚ) < (10 ^ (-e).toNat : ℕ) := by positivity
  have ten : (10 : ℚ) ^ e = (10 ^ e.toNat : ℕ) / (10 ^ (-e).toNat : ℕ) := zpow_eq_div 10 e
  have den_ne : (den : ℚ) ≠ 0 := by exact_mod_cast positive.ne'
  refine ⟨den * (10 ^ (-e).toNat : ℕ), by positivity, ?_, ?_⟩
  · simp only [powerOfTen, Nat.pow_eq, Nat.cast_mul]
    field_simp
  · rw [ten]
    simp only [powerOfTen, Nat.pow_eq, Nat.cast_mul]
    field_simp

theorem le_grid_iff {den : ℕ} (positive : 0 < den) (a c : ℕ) (e : ℤ) :
    a * powerOfTen (-e).toNat ≤ c * (den * powerOfTen e.toNat) ↔ (a / den : ℚ) ≤ c * 10 ^ e := by
  obtain ⟨scale, above, left, right⟩ := grid_ratio positive a c e
  rw [← Nat.cast_le (α := ℚ), left, right, mul_le_mul_iff_left₀ above]

theorem grid_le_iff {den : ℕ} (positive : 0 < den) (a c : ℕ) (e : ℤ) :
    c * (den * powerOfTen e.toNat) ≤ a * powerOfTen (-e).toNat ↔ c * 10 ^ e ≤ (a / den : ℚ) := by
  obtain ⟨scale, above, left, right⟩ := grid_ratio positive a c e
  rw [← Nat.cast_le (α := ℚ), left, right, mul_le_mul_iff_left₀ above]

theorem lt_grid_iff {den : ℕ} (positive : 0 < den) (a c : ℕ) (e : ℤ) :
    a * powerOfTen (-e).toNat < c * (den * powerOfTen e.toNat) ↔ (a / den : ℚ) < c * 10 ^ e := by
  rw [← not_le, grid_le_iff positive, not_le]

theorem grid_lt_iff {den : ℕ} (positive : 0 < den) (a c : ℕ) (e : ℤ) :
    c * (den * powerOfTen e.toNat) < a * powerOfTen (-e).toNat ↔ c * 10 ^ e < (a / den : ℚ) := by
  rw [← not_le, le_grid_iff positive, not_le]

theorem reachesLow_iff (positive : 0 < n.denominator) (c : ℕ) (e : ℤ) :
    (if n.closed = true then
        n.low * powerOfTen (-e).toNat ≤ c * (n.denominator * powerOfTen e.toNat)
      else n.low * powerOfTen (-e).toNat < c * (n.denominator * powerOfTen e.toNat)) ↔
      n.FromLow (c * 10 ^ e) := by
  cases closed : n.closed
  · simp [FromLow, lowest, closed, lt_grid_iff positive]
  · simp [FromLow, lowest, closed, le_grid_iff positive, le_iff_lt_or_eq]

theorem reachesHigh_iff (positive : 0 < n.denominator) (c : ℕ) (e : ℤ) :
    (if n.closed = true then
        c * (n.denominator * powerOfTen e.toNat) ≤ n.high * powerOfTen (-e).toNat
      else c * (n.denominator * powerOfTen e.toNat) < n.high * powerOfTen (-e).toNat) ↔
      n.UpToHigh (c * 10 ^ e) := by
  cases closed : n.closed
  · simp [UpToHigh, highest, closed, grid_lt_iff positive]
  · simp [UpToHigh, highest, closed, grid_le_iff positive, le_iff_lt_or_eq]

/-- The search on one grid takes one of the two points around the middle, if the neighbourhood reaches
one of them. -/
theorem grid_point_cases (positive : 0 < n.denominator) (tie : Tie) (e : ℤ) :
    ∃ below : ℕ, below * (10 : ℚ) ^ e ≤ n.middle ∧ n.middle < (below + 1 : ℕ) * (10 : ℚ) ^ e ∧
      (n.gridPoint? tie e = some below ∧ n.FromLow (below * 10 ^ e) ∨
        n.gridPoint? tie e = some (below + 1) ∧ n.UpToHigh ((below + 1 : ℕ) * 10 ^ e) ∨
        n.gridPoint? tie e = none ∧ ¬ n.FromLow (below * 10 ^ e) ∧
          ¬ n.UpToHigh ((below + 1 : ℕ) * 10 ^ e)) := by
  have unit : 0 < n.denominator * powerOfTen e.toNat :=
    Nat.mul_pos positive (Nat.pow_pos (by decide))
  refine ⟨n.value * powerOfTen (-e).toNat / (n.denominator * powerOfTen e.toNat), ?_, ?_, ?_⟩
  · rw [middle, ← grid_le_iff positive]
    exact Nat.div_mul_le_self _ _
  · rw [middle, ← lt_grid_iff positive, Nat.mul_comm _ (n.denominator * _)]
    exact Nat.lt_mul_div_succ _ unit
  · simp only [← reachesLow_iff positive, ← reachesHigh_iff positive, gridPoint?]
    grind

theorem holds_at_grid_point (positive : 0 < n.denominator) (lower : n.lowest < n.middle)
    (upper : n.middle < n.highest) (found : n.gridPoint? tie e = some c) :
    n.FromLow (c * 10 ^ e) ∧ n.UpToHigh (c * 10 ^ e) := by
  obtain ⟨below, left, right, outcome⟩ := grid_point_cases positive tie e
  rcases outcome with ⟨here, reached⟩ | ⟨here, reached⟩ | ⟨here, -⟩
  · obtain rfl : below = c := Option.some.inj (here.symm.trans found)
    exact ⟨reached, .inl (lt_of_le_of_lt left upper)⟩
  · obtain rfl : below + 1 = c := Option.some.inj (here.symm.trans found)
    exact ⟨.inl (lower.trans right), reached⟩
  · rw [here] at found
    cases found

/-- A grid that is finer than the neighbourhood is wide has a point in it. -/
theorem grid_point_found (positive : 0 < n.denominator) (tie : Tie)
    (fine : (10 : ℚ) ^ e < n.highest - n.lowest) : (n.gridPoint? tie e).isSome = true := by
  obtain ⟨below, left, right, outcome⟩ := grid_point_cases positive tie e
  rcases outcome with ⟨here, -⟩ | ⟨here, -⟩ | ⟨-, missedLow, missedHigh⟩
  · rw [here]
    rfl
  · rw [here]
    rfl
  · have lowest_ge := not_lt.mp fun above => missedLow (.inl above)
    have highest_le := not_lt.mp fun below => missedHigh (.inl below)
    push_cast at highest_le
    linarith

end Neighbourhood

/-! The neighbourhood of a number reaches half way to its two neighbours. -/

variable {x : Binary64} {tie : Tie}

theorem neighbourhood_ratio (x : Binary64) (a : ℕ) :
    ((a <<< (x.exponent - 2).toNat : ℕ) / (neighbourhood x).denominator : ℚ) =
      a / 4 * 2 ^ x.exponent := by
  have shifted := shifted_ratio a 1 (-(x.exponent - 2))
  rw [neg_neg, Nat.cast_one, div_one, zpow_neg, div_inv_eq_mul, zpow_sub₀ two_ne_zero] at shifted
  rw [neighbourhood, shifted]
  ring

theorem neighbourhood_denominator_pos (x : Binary64) : 0 < (neighbourhood x).denominator := by
  change 0 < 1 <<< (-(x.exponent - 2)).toNat
  rw [Nat.shiftLeft_eq]
  exact Nat.mul_pos one_pos (Nat.two_pow_pos _)

theorem middle_eq (x : Binary64) : (neighbourhood x).middle = x.absolute := by
  refine (neighbourhood_ratio x (4 * x.significand)).trans ?_
  change _ = (x.significand : ℚ) * 2 ^ x.exponent
  push_cast
  ring

theorem highest_eq (x : Binary64) : (neighbourhood x).highest = halfway x.magnitude := by
  refine (neighbourhood_ratio x (4 * x.significand + 2)).trans ?_
  change _ = ((x.significand : ℚ) + 1 / 2) * 2 ^ x.exponent
  push_cast
  ring

theorem lowest_eq {m : ℕ} (here : x.magnitude = m + 1) : (neighbourhood x).lowest = halfway m := by
  obtain ⟨e, place, exponent, full⟩ := magnitude_split x.magnitude
  have few := units_lt x.magnitude
  generalize count : units x.magnitude = s at *
  have significand : x.significand = s := count
  have same : x.exponent = e - 1074 := exponent
  have value : valueAt (m + 1) = s * 2 ^ x.exponent := by
    rw [← here, ← significand]
    rfl
  have positive : 0 < s := by
    have filled : 0 < hiddenBit := by decide
    rcases full with least | zero
    · omega
    · subst zero
      omega
  rw [halfway_eq_middle, value]
  by_cases narrow : x.significand = hiddenBit ∧ -1074 < x.exponent
  · have low : (neighbourhood x).low = (4 * x.significand - 1) <<< (x.exponent - 2).toNat := by
      simp only [neighbourhood, if_pos narrow]
    have one : 1 ≤ e := by omega
    have before : m = (e - 1) * hiddenBit + (2 * hiddenBit - 1) := by
      obtain ⟨d, rfl⟩ := Nat.exists_eq_add_of_le' one
      rw [Nat.add_mul] at place
      simp only [hiddenBit_eq] at *
      omega
    have previous : valueAt m = (2 * hiddenBit - 1 : ℕ) * 2 ^ (x.exponent - 1) := by
      rw [before, valueAt_of_units (.inl (by decide)) (by omega), same]
      congr 2
      omega
    rw [Neighbourhood.lowest, low, neighbourhood_ratio, previous, significand,
      zpow_sub₀ two_ne_zero, zpow_one, ← significand, narrow.1]
    rw [hiddenBit_eq]
    push_cast
    ring
  · have low : (neighbourhood x).low = (4 * x.significand - 2) <<< (x.exponent - 2).toNat := by
      simp only [neighbourhood, if_neg narrow]
    have before : m = e * hiddenBit + (s - 1) := by omega
    have previous : valueAt m = (s - 1 : ℕ) * 2 ^ x.exponent := by
      rw [before, valueAt_of_units (by omega) (by omega), same]
    rw [Neighbourhood.lowest, low, neighbourhood_ratio, previous, significand,
      Nat.cast_sub (by omega), Nat.cast_sub (by omega)]
    push_cast
    ring

theorem closed_iff (x : Binary64) : (neighbourhood x).closed = true ↔ x.magnitude % 2 = 0 := by
  obtain ⟨e, place, -, -⟩ := magnitude_split x.magnitude
  have same : (neighbourhood x).closed = decide (units x.magnitude % 2 = 0) := rfl
  rw [same, decide_eq_true_iff]
  simp only [hiddenBit_eq] at place
  omega

theorem rounded_of_neighbourhood (finite : x.isFinite = true) (nonzero : x.magnitude ≠ 0) {q : ℚ}
    (least : (neighbourhood x).FromLow q) (most : (neighbourhood x).UpToHigh q) :
    rounded q = x.magnitude := by
  obtain ⟨m, here⟩ := Nat.exists_eq_succ_of_ne_zero nonzero
  rw [Neighbourhood.FromLow, lowest_eq here, closed_iff, here] at least
  rw [Neighbourhood.UpToHigh, highest_eq, closed_iff, here] at most
  rw [isFinite_iff, here] at finite
  rw [here]
  exact rounded_eq_of_between finite (least.imp_right fun ⟨even, same⟩ => ⟨same, by omega⟩)
    (most.imp_right fun ⟨even, same⟩ => ⟨same, even⟩)

theorem lowest_lt_middle (nonzero : x.magnitude ≠ 0) :
    (neighbourhood x).lowest < (neighbourhood x).middle := by
  obtain ⟨m, here⟩ := Nat.exists_eq_succ_of_ne_zero nonzero
  rw [lowest_eq here, middle_eq, absolute, here]
  exact halfway_lt_valueAt_succ m

theorem middle_lt_highest (x : Binary64) : (neighbourhood x).middle < (neighbourhood x).highest := by
  rw [middle_eq, highest_eq]
  exact valueAt_lt_halfway _

theorem lowest_pos (nonzero : x.magnitude ≠ 0) : 0 < (neighbourhood x).lowest := by
  obtain ⟨m, here⟩ := Nat.exists_eq_succ_of_ne_zero nonzero
  rw [lowest_eq here]
  exact (valueAt_nonneg m).trans_lt (valueAt_lt_halfway m)

/-! The search comes to an end: the eighteenth grid after the first is finer than any neighbourhood. -/

/-- Binary digits of the absolute value in front of the point, less the zeros behind it. -/
def binaryDigits (x : Binary64) : ℤ := x.significand.log2 + 1 + x.exponent

theorem exponent_bounds (finite : x.isFinite = true) : -1074 ≤ x.exponent ∧ x.exponent ≤ 971 := by
  rw [isFinite_iff] at finite
  simp only [Binary64.exponent, infinityMagnitude, hiddenBit_eq] at *
  omega

theorem significand_bounds (nonzero : x.magnitude ≠ 0) :
    0 < x.significand ∧ x.significand < 2 * hiddenBit := by
  refine ⟨?_, units_lt x.magnitude⟩
  rcases Nat.lt_or_ge x.magnitude hiddenBit with small | large
  · rw [Binary64.significand, if_pos small]
    omega
  · rw [Binary64.significand, if_neg (Nat.not_lt.mpr large), hiddenBit_eq]
    omega

theorem binaryDigits_bounds (finite : x.isFinite = true) (nonzero : x.magnitude ≠ 0) :
    -1073 ≤ binaryDigits x ∧ binaryDigits x ≤ 1024 ∧ binaryDigits x - 53 ≤ x.exponent := by
  obtain ⟨positive, few⟩ := significand_bounds nonzero
  have short : x.significand.log2 < 53 :=
    (Nat.log2_lt positive.ne').mpr (by simpa [hiddenBit_eq] using few)
  have range := exponent_bounds finite
  unfold binaryDigits
  omega

theorem width (nonzero : x.magnitude ≠ 0) :
    3 / 4 * 2 ^ x.exponent ≤ (neighbourhood x).highest - (neighbourhood x).lowest := by
  obtain ⟨m, here⟩ := Nat.exists_eq_succ_of_ne_zero nonzero
  have exponent : x.exponent = unitExponent (m + 1) := by
    rw [← Nat.succ_eq_add_one, ← here]
    rfl
  have near : unitExponent (m + 1) - 1 ≤ unitExponent m := by
    simp only [unitExponent, hiddenBit_eq]
    omega
  have step : (2 : ℚ) ^ unitExponent (m + 1) / 2 ≤ 2 ^ unitExponent m := by
    rw [div_eq_mul_inv, ← zpow_sub_one₀ two_ne_zero]
    exact zpow_le_zpow_right₀ one_le_two near
  have next := valueAt_succ m
  have before : valueAt m = units m * 2 ^ unitExponent m := rfl
  rw [highest_eq, lowest_eq here, here, exponent, Nat.succ_eq_add_one, halfway_eq_add (m + 1),
    halfway_eq_middle]
  linarith

theorem zpow_le_zpow_iff {b c : ℕ} (bPositive : 0 < b) (cPositive : 0 < c) (k l : ℤ) :
    (b : ℚ) ^ k ≤ (c : ℚ) ^ l ↔ b ^ k.toNat * c ^ (-l).toNat ≤ c ^ l.toNat * b ^ (-k).toNat := by
  have left : (0 : ℚ) < (b ^ (-k).toNat : ℕ) := by positivity
  have right : (0 : ℚ) < (c ^ (-l).toNat : ℕ) := by positivity
  rw [zpow_eq_div b k, zpow_eq_div c l, div_le_div_iff₀ left right]
  exact_mod_cast Iff.rfl

/-- The bounds on the first and the eighteenth grid after it, in whole numbers. -/
def ceilingFits (bits : ℤ) : Bool :=
  let top := ceilingExponent bits
  Nat.ble (powerOfTen (-top).toNat <<< bits.toNat) (powerOfTen top.toNat <<< (-bits).toNat) &&
    !Nat.ble (powerOfTen (-(top - 18)).toNat <<< (bits - 54).toNat)
      (powerOfTen (top - 18).toNat <<< (-(bits - 54)).toNat)

theorem ceilingFits_all : ((List.range 2098).all fun k => ceilingFits ((k : ℕ) - 1073)) = true := by
  decide +kernel

/-- The first grid has its unit above the number, the eighteenth after it has many in it. -/
theorem ceilingExponent_bounds {bits : ℤ} (least : -1073 ≤ bits) (most : bits ≤ 1024) :
    (2 : ℚ) ^ bits ≤ 10 ^ ceilingExponent bits ∧
      (10 : ℚ) ^ (ceilingExponent bits - 18) < 2 ^ (bits - 54) := by
  have fits : ceilingFits bits = true := by
    obtain ⟨k, same⟩ := Int.eq_ofNat_of_zero_le (show 0 ≤ bits + 1073 by omega)
    obtain rfl : bits = k - 1073 := by omega
    exact List.all_eq_true.mp ceilingFits_all k (List.mem_range.mpr (by omega))
  simp only [ceilingFits, Bool.and_eq_true, Bool.not_eq_true', Nat.ble_eq, ← Bool.not_eq_true,
    powerOfTen, Nat.pow_eq, Nat.shiftLeft_eq] at fits
  constructor
  · refine (zpow_le_zpow_iff two_pos (by decide) _ _).mpr ?_
    rw [Nat.mul_comm]
    exact fits.1
  · refine not_le.mp (mt (zpow_le_zpow_iff two_pos (by decide) _ _).mp ?_)
    rw [Nat.mul_comm]
    exact fits.2

theorem findSome?_range {α : Type} {f : ℕ → Option α} {n k : ℕ} (inside : k < n)
    (found : (f k).isSome = true) :
    ∃ i ≤ k, ∃ a, f i = some a ∧ (List.range n).findSome? f = some a := by
  obtain ⟨a, first⟩ : ∃ a, (List.range (k + 1)).findSome? f = some a := by
    rw [← Option.isSome_iff_exists, List.findSome?_isSome_iff]
    exact ⟨k, List.mem_range.mpr k.lt_succ_self, found⟩
  obtain ⟨i, member, here⟩ := List.exists_of_findSome?_eq_some first
  refine ⟨i, Nat.le_of_lt_succ (List.mem_range.mp member), a, here, ?_⟩
  obtain ⟨more, rfl⟩ := Nat.exists_eq_add_of_le (show k + 1 ≤ n from inside)
  rw [List.range_add, List.findSome?_append, first]
  rfl

def topExponent (x : Binary64) : ℤ := ceilingExponent (binaryDigits x)

theorem shortest_found (tie : Tie) {k : ℕ} (few : k < 20)
    (fine : (10 : ℚ) ^ (topExponent x - k) < (neighbourhood x).highest - (neighbourhood x).lowest) :
    ∃ step ≤ k, (shortest tie x).exponent = topExponent x - step ∧
      (neighbourhood x).gridPoint? tie (topExponent x - step) =
        some (shortest tie x).coefficient := by
  have found := Neighbourhood.grid_point_found (neighbourhood_denominator_pos x) tie fine
  obtain ⟨step, early, d, here, first⟩ :=
    findSome?_range (f := fun (step : ℕ) =>
      ((neighbourhood x).gridPoint? tie (topExponent x - step)).map
        (Decimal.mk · (topExponent x - step))) few (by rwa [Option.isSome_map])
  have result : shortest tie x = d := by
    change Option.getD _ _ = d
    exact congrArg (Option.getD · _) first
  obtain ⟨c, point, rfl⟩ := Option.map_eq_some_iff.mp here
  exact ⟨step, early, congrArg Decimal.exponent result,
    point.trans (congrArg (some ·.coefficient) result).symm⟩

theorem topExponent_fine (finite : x.isFinite = true) (nonzero : x.magnitude ≠ 0) :
    (10 : ℚ) ^ (topExponent x - 18) < (neighbourhood x).highest - (neighbourhood x).lowest := by
  obtain ⟨least, most, near⟩ := binaryDigits_bounds finite nonzero
  calc (10 : ℚ) ^ (topExponent x - 18)
    _ < 2 ^ (binaryDigits x - 54) := (ceilingExponent_bounds least most).2
    _ ≤ 2 ^ (x.exponent - 1) := zpow_le_zpow_right₀ one_le_two (by omega)
    _ = 1 / 2 * 2 ^ x.exponent := by
      rw [zpow_sub_one₀ two_ne_zero]
      ring
    _ ≤ 3 / 4 * 2 ^ x.exponent := mul_le_mul_of_nonneg_right (by norm_num) (two_zpow_pos _).le
    _ ≤ _ := width nonzero

variable (tie) in
/-- The shortest decimal is found, on one of the first nineteen grids, and in the neighbourhood. -/
theorem shortest_spec (finite : x.isFinite = true) (nonzero : x.magnitude ≠ 0) :
    topExponent x - 18 ≤ (shortest tie x).exponent ∧
      (neighbourhood x).FromLow (shortest tie x).rational ∧
      (neighbourhood x).UpToHigh (shortest tie x).rational := by
  obtain ⟨step, early, exponent, point⟩ :=
    shortest_found tie (show 18 < 20 by decide) (topExponent_fine finite nonzero)
  rw [← exponent] at point
  refine ⟨by omega, ?_⟩
  exact Neighbourhood.holds_at_grid_point (neighbourhood_denominator_pos x)
    (lowest_lt_middle nonzero) (middle_lt_highest x) point

variable (tie) in
/-- Rounded once, the shortest decimal is the number it was made for. -/
theorem rounded_shortest (finite : x.isFinite = true) (nonzero : x.magnitude ≠ 0) :
    rounded (shortest tie x).rational = x.magnitude := by
  obtain ⟨-, least, most⟩ := shortest_spec tie finite nonzero
  exact rounded_of_neighbourhood finite nonzero least most

variable (tie) in
theorem shortest_le_halfway (finite : x.isFinite = true) (nonzero : x.magnitude ≠ 0) :
    (shortest tie x).rational ≤ halfway x.magnitude := by
  obtain ⟨-, -, most⟩ := shortest_spec tie finite nonzero
  rw [Neighbourhood.UpToHigh, highest_eq] at most
  rcases most with below | ⟨-, same⟩
  · exact below.le
  · exact same.le

variable (tie) in
theorem shortest_coefficient_pos (finite : x.isFinite = true) (nonzero : x.magnitude ≠ 0) :
    0 < (shortest tie x).coefficient := by
  obtain ⟨-, least, -⟩ := shortest_spec tie finite nonzero
  have positive : 0 < (shortest tie x).rational := by
    have start := lowest_pos nonzero
    rcases least with above | ⟨-, same⟩ <;> linarith
  refine Nat.pos_of_ne_zero fun none => ?_
  rw [rational, none, Nat.cast_zero, zero_mul] at positive
  exact lt_irrefl _ positive

theorem halfway_lt (x : Binary64) : halfway x.magnitude < 2 ^ binaryDigits x := by
  have next : x.significand + 1 ≤ 2 ^ (x.significand.log2 + 1) := Nat.lt_log2_self
  calc halfway x.magnitude
    _ < (x.significand + 1 : ℕ) * 2 ^ x.exponent := by
      have step := halfway_lt_valueAt_succ x.magnitude
      rw [valueAt_succ] at step
      exact_mod_cast step
    _ ≤ (2 ^ (x.significand.log2 + 1) : ℕ) * 2 ^ x.exponent :=
      mul_le_mul_of_nonneg_right (Nat.cast_le.mpr next) (two_zpow_pos _).le
    _ = 2 ^ binaryDigits x := by
      rw [binaryDigits, zpow_add₀ two_ne_zero, ← Int.natCast_succ, zpow_natCast]
      norm_cast

variable (tie) in
theorem shortest_lt (finite : x.isFinite = true) (nonzero : x.magnitude ≠ 0) :
    (shortest tie x).rational < 2 ^ binaryDigits x :=
  (shortest_le_halfway tie finite nonzero).trans_lt (halfway_lt x)

variable (tie) in
theorem shortest_coefficient_lt (finite : x.isFinite = true) (nonzero : x.magnitude ≠ 0) :
    (shortest tie x).coefficient < 0x10000000000000000 := by
  obtain ⟨early, -, -⟩ := shortest_spec tie finite nonzero
  obtain ⟨least, most, -⟩ := binaryDigits_bounds finite nonzero
  have scale := ten_zpow_pos (shortest tie x).exponent
  have bound : ((shortest tie x).coefficient : ℚ) * 10 ^ (shortest tie x).exponent ≤
      10 ^ 18 * 10 ^ (shortest tie x).exponent := by
    calc (shortest tie x).rational
      _ ≤ 2 ^ binaryDigits x := (shortest_lt tie finite nonzero).le
      _ ≤ 10 ^ topExponent x := (ceilingExponent_bounds least most).1
      _ ≤ 10 ^ (18 + (shortest tie x).exponent) := zpow_le_zpow_right₀ (by norm_num) (by omega)
      _ = 10 ^ 18 * 10 ^ (shortest tie x).exponent := zpow_add₀ (by norm_num) 18 _
  have few := le_of_mul_le_mul_right bound scale
  have fewer : (shortest tie x).coefficient ≤ 10 ^ 18 := by exact_mod_cast few
  omega

variable (tie) in
theorem shortest_exponent_bounds (finite : x.isFinite = true) (nonzero : x.magnitude ≠ 0) :
    -341 ≤ (shortest tie x).exponent ∧ (shortest tie x).exponent ≤ 308 := by
  obtain ⟨early, -, -⟩ := shortest_spec tie finite nonzero
  obtain ⟨least, most, -⟩ := binaryDigits_bounds finite nonzero
  have positive := shortest_coefficient_pos tie finite nonzero
  constructor
  · unfold topExponent ceilingExponent at early
    omega
  · have short : (10 : ℚ) ^ (shortest tie x).exponent < 10 ^ (309 : ℤ) := by
      calc (10 : ℚ) ^ (shortest tie x).exponent
        _ ≤ (shortest tie x).rational :=
          le_mul_of_one_le_left (ten_zpow_pos _).le (by exact_mod_cast positive)
        _ < 2 ^ binaryDigits x := shortest_lt tie finite nonzero
        _ ≤ 2 ^ (1024 : ℤ) := zpow_le_zpow_right₀ one_le_two most
        _ ≤ 10 ^ (309 : ℤ) :=
          (zpow_le_zpow_iff two_pos (by decide) 1024 309).mpr (by decide +kernel)
    have below := (zpow_lt_zpow_iff_right₀ (by norm_num)).mp short
    omega

variable (tie) in
/-- Of the greatest numbers no digit behind the seventeenth is written. -/
theorem shortest_exponent_of_greatest (finite : x.isFinite = true) (nonzero : x.magnitude ≠ 0)
    (greatest : binaryDigits x = 1024) : 292 ≤ (shortest tie x).exponent := by
  have top : topExponent x = 309 := by
    rw [topExponent, greatest]
    decide
  have exponent : x.exponent = 971 := by
    have near := (binaryDigits_bounds finite nonzero).2.2
    have range := exponent_bounds finite
    omega
  have fine : (10 : ℚ) ^ (topExponent x - (17 : ℕ)) <
      (neighbourhood x).highest - (neighbourhood x).lowest := by
    refine lt_of_lt_of_le ?_ (width nonzero)
    have less : (10 : ℚ) ^ 292 < 3 * 2 ^ 969 := by
      exact_mod_cast (show 10 ^ 292 < 3 * 2 ^ 969 by decide +kernel)
    have units : (2 : ℚ) ^ (971 : ℤ) = 2 ^ 969 * 4 := by
      rw [zpow_ofNat, pow_add 2 969 2]
      norm_num only
    rw [top, exponent, units]
    refine lt_of_eq_of_lt (zpow_ofNat 10 292) ?_
    generalize (2 : ℚ) ^ 969 = binary, (10 : ℚ) ^ 292 = decimal at less ⊢
    linarith
  obtain ⟨step, early, here, -⟩ := shortest_found tie (show 17 < 20 by decide) fine
  omega

end BeamRun.Decimal
