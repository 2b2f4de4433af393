import BeamRun.Proofs.Binary64.Nearest
import BeamRun.Proofs.Column.Value

/-! Fields keep the order of numbers. A field shows a number by its sign and, without it, by its nearest
multiple of a unit, cut off where the digits of the whole part leave no more room; each step keeps the
order, also where one more digit in front of the point takes a place away behind it. -/

namespace BeamRun.Column

open Binary64 Decimal

section Cut

variable {q r : ℚ}

theorem truncated_le (nonneg : 0 ≤ q) (k : ℕ) : truncated k q ≤ q := by
  rw [truncated, div_le_iff₀ (by positivity)]
  exact Nat.floor_le (by positivity)

theorem floor_le_truncated (q : ℚ) (k : ℕ) : (⌊q⌋₊ : ℚ) ≤ truncated k q := by
  rcases lt_or_ge q 0 with negative | nonneg
  · rw [Nat.floor_of_nonpos negative.le, truncated]
    positivity
  · have whole : ((⌊q⌋₊ * 10 ^ k : ℕ) : ℚ) ≤ q * 10 ^ k := by
      push_cast
      exact mul_le_mul_of_nonneg_right (Nat.floor_le nonneg) (by positivity)
    have floors : ⌊q⌋₊ * 10 ^ k ≤ ⌊q * 10 ^ k⌋₊ := Nat.le_floor whole
    rw [truncated, le_div_iff₀ (by positivity)]
    exact_mod_cast floors

theorem truncated_mono (le : q ≤ r) (k : ℕ) : truncated k q ≤ truncated k r := by
  have floors : ⌊q * 10 ^ k⌋₊ ≤ ⌊r * 10 ^ k⌋₊ :=
    Nat.floor_mono (mul_le_mul_of_nonneg_right le (by positivity))
  unfold truncated
  gcongr

/-- What is left of a number where there is room for `n` digits, those of its whole part first. -/
def cut (n : ℕ) (q : ℚ) : ℚ := truncated (n - (digits ⌊q⌋₊).length) q

theorem cut_nonneg (n : ℕ) (q : ℚ) : 0 ≤ cut n q :=
  (Nat.cast_nonneg _).trans (floor_le_truncated q _)

theorem cut_zero (n : ℕ) : cut n 0 = 0 := le_antisymm (truncated_le le_rfl _) (cut_nonneg n 0)

/-- With equally many digits in front of the point both numbers are cut at one place; with fewer of
them the smaller number stays below a power of ten that the greater one does not lose. -/
theorem cut_mono (n : ℕ) (nonneg : 0 ≤ q) (le : q ≤ r) : cut n q ≤ cut n r := by
  have floors : ⌊q⌋₊ ≤ ⌊r⌋₊ := Nat.floor_mono le
  have widths : (digits ⌊q⌋₊).length ≤ (digits ⌊r⌋₊).length :=
    (length_digits_le_iff (length_digits_pos _)).mpr (floors.trans_lt (lt_pow_length_digits _))
  rcases widths.lt_or_eq with fewer | same
  · have power : 10 ^ (digits ⌊q⌋₊).length ≤ ⌊r⌋₊ := by
      by_contra small
      have narrow := (length_digits_le_iff (length_digits_pos ⌊q⌋₊)).mpr (not_le.mp small)
      omega
    calc cut n q
      _ ≤ q := truncated_le nonneg _
      _ ≤ 10 ^ (digits ⌊q⌋₊).length := by
        have below := (Nat.floor_lt nonneg).mp (lt_pow_length_digits ⌊q⌋₊)
        exact_mod_cast below.le
      _ ≤ ⌊r⌋₊ := by exact_mod_cast power
      _ ≤ cut n r := floor_le_truncated r _
  · rw [cut, cut, same]
    exact truncated_mono le _

end Cut

variable {x y : Binary64}

def toEighthPlace (x : Binary64) : ℚ := fixedUnits 8 x / 10 ^ 8

theorem toEighthPlace_nonneg (x : Binary64) : 0 ≤ toEighthPlace x := by
  unfold toEighthPlace
  positivity

theorem toEighthPlace_mono (le : x.absolute ≤ y.absolute) : toEighthPlace x ≤ toEighthPlace y := by
  have units : fixedUnits 8 x ≤ fixedUnits 8 y := by
    apply roundHalfEven_mono x.denominator_pos y.denominator_pos
    rw [ratio_eq, ratio_eq]
    exact mul_le_mul_of_nonneg_right le (by positivity)
  unfold toEighthPlace
  gcongr

theorem toEighthPlace_of_zero (zero : x.absolute = 0) : toEighthPlace x = 0 := by
  have none : x.numerator = 0 := by
    have ratio := x.numerator_div_denominator
    rw [zero, div_eq_zero_iff] at ratio
    rcases ratio with numerator | denominator
    · exact_mod_cast numerator
    · exact absurd (by exact_mod_cast denominator) x.denominator_pos.ne'
  have units : fixedUnits 8 x = 0 := by
    rw [fixedUnits, none, Nat.zero_mul, roundHalfEven, Nat.zero_div, Nat.zero_mod]
    exact if_pos (.inl x.denominator_pos)
  rw [toEighthPlace, units, Nat.cast_zero, zero_div]

def shown (x : Binary64) : ℚ := signed x.isNegative (cut (room x - 1) (toEighthPlace x))

theorem real_read_back {field : List Char} (fits : real x = some field) :
    real? field = some (shown x) := by
  obtain ⟨whole, fraction, shows⟩ := shows_of_real (nearest_fixedUnits x) fits
  have value := shows.value
  rwa [places, shows.whole_eq] at value

theorem shown_of_zero (zero : x.absolute = 0) : shown x = 0 := by
  rw [shown, toEighthPlace_of_zero zero, cut_zero, signed, neg_zero, ite_self]

theorem shown_of_nonneg (sign : x.isNegative = false) : shown x = cut 7 (toEighthPlace x) := by
  rw [shown, signed, room, sign, if_neg Bool.false_ne_true, if_neg Bool.false_ne_true]

theorem shown_of_negative (sign : x.isNegative = true) : shown x = -cut 6 (toEighthPlace x) := by
  rw [shown, signed, room, sign, if_pos rfl, if_pos rfl]

/-- Among numbers of one sign the cut keeps the order; of two signs, the one below is at most zero. -/
theorem shown_mono (le : x.rational ≤ y.rational) : shown x ≤ shown y := by
  cases signX : x.isNegative with
  | false =>
    cases signY : y.isNegative with
    | false =>
      rw [rational_of_nonneg signX, rational_of_nonneg signY] at le
      rw [shown_of_nonneg signX, shown_of_nonneg signY]
      exact cut_mono 7 (toEighthPlace_nonneg x) (toEighthPlace_mono le)
    | true =>
      -- Nothing but zero is both at least zero and at most zero.
      have least := x.absolute_nonneg
      have greatest := y.absolute_nonneg
      rw [rational_of_nonneg signX, rational_of_negative signY] at le
      rw [shown_of_zero (x := x) (by linarith), shown_of_zero (x := y) (by linarith)]
  | true =>
    cases signY : y.isNegative with
    | false =>
      rw [shown_of_negative signX, shown_of_nonneg signY]
      exact (neg_nonpos.mpr (cut_nonneg _ _)).trans (cut_nonneg _ _)
    | true =>
      rw [rational_of_negative signX, rational_of_negative signY, neg_le_neg_iff] at le
      rw [shown_of_negative signX, shown_of_negative signY, neg_le_neg_iff]
      exact cut_mono 6 (toEighthPlace_nonneg y) (toEighthPlace_mono le)

theorem isFinite_of_absolute_le (le : x.absolute ≤ y.absolute) (finite : y.isFinite = true) :
    x.isFinite = true := by
  rw [isFinite_iff] at finite ⊢
  exact (valueAt_strictMono.le_iff_le.mp le).trans_lt finite

theorem has_field_iff (finite : x.isFinite = true) :
    (real x).isSome = true ↔ toEighthPlace x < 10 ^ (room x - 1) :=
  isSome_real_iff finite (nearest_fixedUnits x)

theorem finite_of_field (fits : (real x).isSome = true) : x.isFinite = true := by
  cases finite : x.isFinite with
  | true => rfl
  | false =>
    rw [real_of_not_isFinite finite] at fits
    cases fits

theorem room_le (x : Binary64) : room x ≤ 8 := by
  unfold room
  split <;> decide

/-- What fits does so also nearer to zero, where there is no less room. -/
theorem has_field_of_nearer_zero (le : x.absolute ≤ y.absolute) (roomier : room y ≤ room x)
    (fits : (real y).isSome = true) : (real x).isSome = true := by
  have finite := finite_of_field fits
  rw [has_field_iff finite] at fits
  rw [has_field_iff (isFinite_of_absolute_le le finite)]
  calc toEighthPlace x
    _ ≤ toEighthPlace y := toEighthPlace_mono le
    _ < 10 ^ (room y - 1) := fits
    _ ≤ 10 ^ (room x - 1) := pow_le_pow_right₀ (by norm_num) (by omega)

theorem zero_has_field (zero : x.absolute = 0) : (real x).isSome = true := by
  have finite : x.isFinite = true := by
    refine isFinite_of_absolute_le (y := .zero) ?_ (by decide)
    rw [zero]
    exact absolute_nonneg _
  rw [has_field_iff finite, toEighthPlace_of_zero zero]
  positivity

theorem has_field_between {w : Binary64} (above : x.rational ≤ w.rational)
    (below : w.rational ≤ y.rational) (first : (real x).isSome = true)
    (last : (real y).isSome = true) : (real w).isSome = true := by
  cases sign : w.isNegative with
  | false =>
    have width : room w = 8 := by rw [room, sign, if_neg Bool.false_ne_true]
    rw [rational_of_nonneg sign] at below
    refine has_field_of_nearer_zero ?_ (width ▸ room_le y) last
    exact (below.trans (le_abs_self _)).trans_eq (abs_rational y)
  | true =>
    rw [rational_of_negative sign] at above
    cases signX : x.isNegative with
    | false =>
      have least := x.absolute_nonneg
      have greatest := w.absolute_nonneg
      rw [rational_of_nonneg signX] at above
      exact zero_has_field (by linarith)
    | true =>
      have same : room x = room w := by rw [room, room, sign, signX]
      rw [rational_of_negative signX, neg_le_neg_iff] at above
      exact has_field_of_nearer_zero above same.le first

/-- Of two numbers that have fields, the smaller one has the field that shows less or the same, and
every number between them has a field too. -/
theorem fields_keep_order {u v : Binary64} (order : u ≤ v) {first last : List Char}
    (fitsFirst : real u = some first) (fitsLast : real v = some last) :
    (∃ p q, real? first = some p ∧ real? last = some q ∧ p ≤ q) ∧
    ∀ w : Binary64, u ≤ w → w ≤ v → ∃ field, real w = some field := by
  constructor
  · exact ⟨shown u, shown v, real_read_back fitsFirst, real_read_back fitsLast,
      shown_mono (rational_le_of_le order)⟩
  · intro w above below
    apply Option.isSome_iff_exists.mp
    apply has_field_between (rational_le_of_le above) (rational_le_of_le below)
    · rw [fitsFirst, Option.isSome_some]
    · rw [fitsLast, Option.isSome_some]

/-- From just above minus a hundred to what is carried up to ten, by way of what is cut below ten. -/
theorem fields_keep_order_carried :
    let u : Binary64 := .ofRatio true 9999999996 100000000
    let w : Binary64 := .ofRatio false 999999999 100000000
    let v : Binary64 := .ofRatio false 9999999996 1000000000
    (u ≤ w ∧ w ≤ v) ∧ real u = some "-99.9999".toList ∧ real v = some "     10.".toList ∧
      (∃ p q, real? "-99.9999".toList = some p ∧ real? "     10.".toList = some q ∧ p ≤ q) ∧
      ∃ field, real w = some field := by
  intro u w v
  have order : u ≤ v := by decide +kernel
  have between : u ≤ w ∧ w ≤ v := by decide +kernel
  have first : real u = some "-99.9999".toList := by decide +kernel
  have last : real v = some "     10.".toList := by decide +kernel
  have kept := fields_keep_order order first last
  exact ⟨between, first, last, kept.1, kept.2 w between.1 between.2⟩

end BeamRun.Column
