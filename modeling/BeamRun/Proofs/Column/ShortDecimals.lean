import BeamRun.Proofs.Binary64.Nearest
import BeamRun.Proofs.Card
import BeamRun.Proofs.Column.Value

/-! Decimals with no more digits than a field has room for stand on a card as they were written: what
rounding adds to them, also by way of a percentage, is less than half a unit of the eighth place. -/

namespace BeamRun.Column

open Binary64 Decimal

def tolerance : ℚ := 1 / 2 / 10 ^ 8

/-- A number of at most seven digits, those in front of the point among them. -/
structure Short (d : ℚ) : Prop where
  nonneg : 0 ≤ d
  below : d < 10 ^ 7
  places : ∃ c : ℕ, d = c / 10 ^ (7 - (digits ⌊d⌋₊).length)

variable {d : ℚ}

theorem Short.eq_zero (short : Short d) (small : d < tolerance) : d = 0 := by
  obtain ⟨c, places⟩ := short.places
  have some := length_digits_pos ⌊d⌋₊
  generalize (digits ⌊d⌋₊).length = n at places some
  rcases Nat.eq_zero_or_pos c with rfl | positive
  · rw [places, Nat.cast_zero, zero_div]
  · have many : (1 : ℚ) ≤ c := by exact_mod_cast positive
    have few : (10 : ℚ) ^ (7 - n) ≤ 10 ^ 6 := pow_le_pow_right₀ (by norm_num) (by omega)
    have least : 1 / 10 ^ 6 ≤ d := by
      rw [places]
      exact div_le_div₀ c.cast_nonneg many (by positivity) few
    norm_num [tolerance] at small least
    linarith

theorem Short.exists_units (short : Short d) : ∃ u : ℕ, d = u / 10 ^ 8 := by
  obtain ⟨c, places⟩ := short.places
  generalize (digits ⌊d⌋₊).length = n at places
  refine ⟨c * 10 ^ (8 - (7 - n)), ?_⟩
  have split : (10 : ℚ) ^ 8 = 10 ^ (8 - (7 - n)) * 10 ^ (7 - n) := by
    rw [← pow_add]
    congr 1
    omega
  rw [places, split]
  push_cast
  field_simp

theorem Short.truncated_eq (short : Short d) : truncated (7 - (digits ⌊d⌋₊).length) d = d := by
  obtain ⟨c, places⟩ := short.places
  generalize 7 - (digits ⌊d⌋₊).length = k at places
  have whole : d * 10 ^ k = c := by
    rw [places]
    field_simp
  rw [truncated, whole, Nat.floor_natCast, ← places]

theorem truncated_zero (k : ℕ) : truncated k 0 = 0 := by
  rw [truncated, zero_mul, Nat.floor_zero, Nat.cast_zero, zero_div]

theorem nearest_of_close {x : Binary64} {u : ℕ} (close : |x.absolute - u / 10 ^ 8| < tolerance) :
    Nearest x u := by
  have scale : x.absolute * 10 ^ 8 - u = (x.absolute - u / 10 ^ 8) * 10 ^ 8 := by ring
  rw [Nearest, scale, abs_mul, abs_of_pos (show (0 : ℚ) < 10 ^ 8 by norm_num)]
  unfold tolerance at close
  linarith

theorem exists_shown {x : Binary64} (finite : x.isFinite = true) (short : Short d)
    (close : |x.absolute - d| < tolerance) (room : d < 10 ^ (room x - 1)) :
    ∃ field, real x = some field ∧
      real? field = some (signed x.isNegative (truncated (places x (digits ⌊d⌋₊)) d)) := by
  obtain ⟨u, same⟩ := short.exists_units
  rw [same] at close room
  have near := nearest_of_close close
  obtain ⟨field, fits⟩ := Option.isSome_iff_exists.mp ((isSome_real_iff finite near).mpr room)
  obtain ⟨whole, fraction, shows⟩ := shows_of_real near fits
  rw [← same] at shows
  exact ⟨field, fits, shows.whole_eq ▸ shows.value⟩

/-- A number that is near enough to a short decimal has its field, and the field shows the decimal. -/
theorem exists_real_of_close (short : Short d) {x : Binary64} (finite : x.isFinite = true)
    (close : |x.rational - d| < tolerance) :
    ∃ field, real x = some field ∧ real? field = some d := by
  cases sign : x.isNegative with
  | false =>
    have room : room x = 8 := by rw [room, sign, if_neg Bool.false_ne_true]
    rw [rational_of_nonneg sign] at close
    have shown := exists_shown finite short close (by rw [room]; exact short.below)
    have count : places x (digits ⌊d⌋₊) = 7 - (digits ⌊d⌋₊).length := by rw [places, room]
    rwa [sign, signed, if_neg Bool.false_ne_true, count, short.truncated_eq] at shown
  | true =>
    -- A sign is left only of what was rounded to zero, and minus zero is zero.
    have room : room x = 7 := by rw [room, sign, if_pos rfl]
    have least := x.absolute_nonneg
    rw [Binary64.rational, sign, if_pos rfl, abs_sub_comm, sub_neg_eq_add,
      abs_of_nonneg (add_nonneg short.nonneg least)] at close
    have zero : d = 0 := short.eq_zero (by linarith)
    have near : |x.absolute - d| < tolerance := by
      rw [zero, sub_zero, abs_of_nonneg least]
      linarith
    have shown := exists_shown finite short near (by rw [room, zero]; norm_num)
    rwa [sign, signed, if_pos rfl, zero, truncated_zero, neg_zero, ← zero] at shown

theorem tolerance_pos : 0 < tolerance := by norm_num [tolerance]

/-- One rounding of a number on this side of ten millions adds less than half the tolerance. -/
theorem rounding_lt {q : ℚ} (le : q ≤ 2 * 10 ^ 7) :
    q * 2 ^ (-53 : ℤ) + drift < tolerance / 2 := by
  have slack : drift ≤ 2 ^ (-53 : ℤ) := zpow_le_zpow_right₀ (by norm_num) (by decide)
  calc q * 2 ^ (-53 : ℤ) + drift
    _ ≤ 2 * 10 ^ 7 * 2 ^ (-53 : ℤ) + 2 ^ (-53 : ℤ) :=
      add_le_add (mul_le_mul_of_nonneg_right le (two_zpow_pos _).le) slack
    _ < tolerance / 2 := by norm_num [tolerance]

theorem close_of_isNearest (short : Short d) {x : Binary64} (near : IsNearest x d) :
    |x.rational - d| < tolerance := by
  have below := short.below
  have finite : rounded d < infinityMagnitude :=
    isFinite_rounded_of_le (n := 10 ^ 7) (by decide) short.nonneg (by exact_mod_cast below.le)
  calc |x.rational - d|
    _ ≤ d * 2 ^ (-53 : ℤ) + drift := near.error short.nonneg finite
    _ < tolerance / 2 := rounding_lt (by linarith)
    _ < tolerance := half_lt_self tolerance_pos

theorem absolute_hundred : (Binary64.ofNat 100).absolute = 100 :=
  absolute_ofNat (a := 25) (j := 2) (by decide) (by decide) (by decide)

theorem one_le_hundred : 1 ≤ (Binary64.ofNat 100).absolute := by
  rw [absolute_hundred]
  norm_num

/-- The number nearest to a hundred times the decimal is off by one rounding, and its hundredth by one
more. -/
theorem close_of_percentage (short : Short d) {p : Binary64} (near : IsNearest p (100 * d)) :
    |(Card.percent p).rational - d| < tolerance := by
  have below := short.below
  have nonneg : 0 ≤ 100 * d := mul_nonneg (by norm_num) short.nonneg
  have finite : rounded (100 * d) < infinityMagnitude := by
    refine isFinite_rounded_of_le (n := 10 ^ 9) (by decide) nonneg ?_
    push_cast
    linarith
  have first : |p.rational / 100 - d| < tolerance / 2 := by
    have scale : p.rational / 100 - d = (p.rational - 100 * d) / 100 := by ring
    have slack := drift_pos
    rw [scale, abs_div, abs_of_pos (show (0 : ℚ) < 100 by norm_num), div_lt_iff₀ (by norm_num)]
    calc |p.rational - 100 * d|
      _ ≤ 100 * d * 2 ^ (-53 : ℤ) + drift := near.error nonneg finite
      _ ≤ (d * 2 ^ (-53 : ℤ) + drift) * 100 := by linarith
      _ < tolerance / 2 * 100 :=
        mul_lt_mul_of_pos_right (rounding_lt (by linarith)) (by norm_num)
  have size : p.absolute / 100 ≤ 2 * 10 ^ 7 := by
    have small : tolerance / 2 < 1 := by norm_num [tolerance]
    calc p.absolute / 100
      _ = |p.rational / 100 - d + d| := by
        rw [sub_add_cancel, abs_div, abs_rational, abs_of_pos (show (0 : ℚ) < 100 by norm_num)]
      _ ≤ |p.rational / 100 - d| + |d| := abs_add_le _ _
      _ ≤ 2 * 10 ^ 7 := by
        rw [abs_of_nonneg short.nonneg]
        linarith
  have second := rational_div_error near.finite (isNegative_ofNat 100) one_le_hundred
  rw [absolute_hundred] at second
  calc |(Card.percent p).rational - d|
    _ ≤ |(Card.percent p).rational - p.rational / 100| + |p.rational / 100 - d| :=
      abs_sub_le _ _ _
    _ < tolerance / 2 + tolerance / 2 := add_lt_add (second.trans_lt (rounding_lt size)) first
    _ = tolerance := add_halves tolerance

/-- A decimal with no more digits than a field has room for is what the field of the number nearest to
it shows, and what the card for the mean energy loss shows when that is nearest to a hundred times the
decimal. -/
theorem short_decimals_shown (short : Short d) :
    (∀ x : Binary64, IsNearest x d → ∃ field, real x = some field ∧ real? field = some d) ∧
    ∀ o : Options, IsNearest o.meanEnergyLoss (100 * d) →
      ∃ content, Card.deltae.render o = .ok content ∧ real? content = some d := by
  constructor
  · intro x near
    exact exists_real_of_close short near.finite (close_of_isNearest short near)
  · intro o near
    have finite : (Card.percent o.meanEnergyLoss).isFinite = true :=
      isFinite_div near.finite one_le_hundred
    obtain ⟨field, fits, shown⟩ := exists_real_of_close short finite (close_of_percentage short near)
    refine ⟨field, ?_, shown⟩
    have entry : (Card.Entry.real (Card.percent o.meanEnergyLoss)).column = some field := fits
    simp [Card.render_eq, Card.tooWide?, Card.fields, Card.entries, entry]

theorem short_decimals_shown_sevenDigits :
    let x : Binary64 := .ofRatio false 1234567 1000
    let p : Binary64 := .ofRatio false 1234567 10
    let o : Options := { Options.builtin with meanEnergyLoss := p }
    Short (1234567 / 1000) ∧ IsNearest x (1234567 / 1000) ∧
      IsNearest o.meanEnergyLoss (100 * (1234567 / 1000)) ∧
      (∃ field, real x = some field ∧ real? field = some (1234567 / 1000)) ∧
      ∃ content, Card.deltae.render o = .ok content ∧ real? content = some (1234567 / 1000) := by
  intro x p o
  have whole : ⌊(1234567 / 1000 : ℚ)⌋₊ = 1234 := by norm_num
  have short : Short (1234567 / 1000) :=
    ⟨by norm_num, by norm_num, 1234567, by rw [whole]; decide +kernel⟩
  have nearest {den : ℕ} (positive : 0 < den) :
      IsNearest (.ofRatio false 1234567 den) ((1234567 : ℕ) / den) := by
    refine isNearest_ofRatio positive (isFinite_rounded_of_le (n := 1234567) (by decide) ?_ ?_)
    · positivity
    · exact div_le_self (Nat.cast_nonneg _) (Nat.one_le_cast.mpr positive)
  have first : IsNearest x (1234567 / 1000) := nearest (by decide)
  have second : IsNearest o.meanEnergyLoss (100 * (1234567 / 1000)) := by
    have same : (100 * (1234567 / 1000) : ℚ) = (1234567 : ℕ) / (10 : ℕ) := by norm_num
    rw [same]
    exact nearest (by decide)
  have general := short_decimals_shown short
  exact ⟨short, first, second, general.1 x first, general.2 o second⟩

end BeamRun.Column
