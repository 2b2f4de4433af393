import Mathlib.Algebra.Order.Floor.Semifield
import Mathlib.Data.List.DropRight
import Mathlib.Data.Rat.Floor
import BeamRun.Proofs.Binary64.Arithmetic
import BeamRun.Proofs.Column

/-! What number a field shows. A finite number is rounded to eight places, and of those the field keeps
as many as it has room for behind the digits of the whole part. -/

namespace BeamRun

namespace Column

open Binary64 Decimal

section Reading

def decimal? (cs : List Char) : Option ℚ :=
  let whole := cs.takeWhile (· ≠ '.')
  match cs.drop whole.length with
  | '.' :: fraction =>
    if whole.isEmpty || !(whole ++ fraction).all Char.isDigit then none
    else some ((value (whole ++ fraction) : ℚ) / 10 ^ fraction.length)
  | _ => none

def real? (field : List Char) : Option ℚ :=
  match field.dropWhile (· = ' ') with
  | '-' :: cs => (decimal? cs).map fun q => -q
  | cs => decimal? cs

def signed (negative : Bool) (q : ℚ) : ℚ := if negative then -q else q

theorem decimal_of_pointed {whole fraction : List Char} (nonempty : whole ≠ [])
    (front : AllDigits whole) (back : AllDigits fraction) :
    decimal? (whole ++ '.' :: fraction) =
      some ((value (whole ++ fraction) : ℚ) / 10 ^ fraction.length) := by
  have pointless : ∀ c ∈ whole, decide (c ≠ '.') = true := fun c member =>
    decide_eq_true fun same => front.not_mem (by decide) (same ▸ member)
  have ahead : (whole ++ '.' :: fraction).takeWhile (· ≠ '.') = whole := by
    rw [List.takeWhile_append_of_pos pointless]
    simp
  have all : (whole ++ fraction).all Char.isDigit = true :=
    List.all_eq_true.mpr (front.append back)
  have some : whole.isEmpty = false := List.isEmpty_eq_false_iff.mpr nonempty
  simp only [decimal?, ahead, List.drop_left, some, all, Bool.not_true, Bool.or_self,
    Bool.false_eq_true, if_false]

theorem real_behind_blanks (blanks : Nat) (cs : List Char) :
    real? (List.replicate blanks ' ' ++ cs) = real? cs := by
  have dropped : (List.replicate blanks ' ' ++ cs).dropWhile (· = ' ') =
      cs.dropWhile (· = ' ') := by
    apply List.dropWhile_append_of_pos
    intro c member
    simp [List.eq_of_mem_replicate member]
  rw [real?, real?, dropped]

theorem real_read_signed (negative : Bool) {whole fraction : List Char} (nonempty : whole ≠ [])
    (front : AllDigits whole) (back : AllDigits fraction) :
    real? ((if negative then ['-'] else []) ++ whole ++ '.' :: fraction) =
      some (signed negative ((value (whole ++ fraction) : ℚ) / 10 ^ fraction.length)) := by
  have number := decimal_of_pointed nonempty front back
  cases negative with
  | true => simp [real?, number, signed]
  | false =>
    obtain ⟨c, cs, rfl⟩ := List.exists_cons_of_ne_nil nonempty
    have digit : c.isDigit = true := front c List.mem_cons_self
    have ink : c ≠ ' ' := fun same => by
      subst same
      cases digit
    have unsigned : c ≠ '-' := fun same => by
      subst same
      cases digit
    rw [List.cons_append] at number
    rw [signed, if_neg Bool.false_ne_true, if_neg Bool.false_ne_true, List.nil_append,
      List.cons_append, ← number, real?, List.dropWhile_cons_of_neg (by simpa using ink)]
    split
    · next ds same =>
      cases same
      exact absurd rfl unsigned
    · rfl

theorem getLast?_withoutTrailingZeros (cs : List Char) :
    (withoutTrailingZeros cs).getLast? ≠ some '0' := by
  intro zero
  have nonempty : cs.rdropWhile (· = '0') ≠ [] := List.ne_nil_of_mem (List.mem_of_getLast? zero)
  have last := List.rdropWhile_last_not _ cs nonempty
  rw [withoutTrailingZeros, ← List.rdropWhile, List.getLast?_eq_some_getLast nonempty] at zero
  simp [Option.some.inj zero] at last

theorem value_withoutTrailingZeros (whole fraction : List Char) :
    (value (whole ++ withoutTrailingZeros fraction) : ℚ) /
        10 ^ (withoutTrailingZeros fraction).length =
      (value (whole ++ fraction) : ℚ) / 10 ^ fraction.length := by
  obtain ⟨n, zeros⟩ : ∃ n, fraction.rtakeWhile (· = '0') = List.replicate n '0' := by
    refine ⟨_, List.eq_replicate_of_mem fun c member => ?_⟩
    simpa using List.mem_rtakeWhile_imp member
  have parts : withoutTrailingZeros fraction ++ List.replicate n '0' = fraction := by
    rw [← zeros]
    exact List.rdropWhile_append_rtakeWhile
  generalize withoutTrailingZeros fraction = kept at parts
  subst parts
  rw [← List.append_assoc, value, value, valueAfter_append _ (whole ++ kept), valueAfter_zeros,
    List.length_append, List.length_replicate, pow_add]
  push_cast
  field_simp

end Reading

section Rounding

theorem roundHalfEven_near {num den : ℕ} (positive : 0 < den) :
    |(num / den : ℚ) - roundHalfEven num den| ≤ 1 / 2 := by
  have above : (num / den : ℚ) ≤ roundHalfEven num den + 1 / 2 := by
    rcases (roundHalfEven_le_iff positive _).mp le_rfl with less | ⟨same, -⟩
    · exact less.le
    · exact same.le
  have below : (roundHalfEven num den : ℚ) ≤ num / den + 1 / 2 := by
    cases here : roundHalfEven num den with
    | zero => positivity
    | succ m =>
      by_contra less
      push_cast at less
      have early : roundHalfEven num den ≤ m :=
        (roundHalfEven_le_iff positive m).mpr (.inl (by linarith))
      omega
  rw [abs_le]
  constructor <;> linarith

/-- A whole number of units of the eighth place, and none is nearer to the absolute value. -/
def Nearest (x : Binary64) (u : ℕ) : Prop := |x.absolute * 10 ^ 8 - u| ≤ 1 / 2

theorem ratio_eq (x : Binary64) :
    ((x.numerator * powerOfTen 8 : ℕ) / x.denominator : ℚ) = x.absolute * 10 ^ 8 := by
  rw [← numerator_div_denominator, Nat.cast_mul, div_mul_eq_mul_div]
  norm_num [powerOfTen]

theorem nearest_fixedUnits (x : Binary64) : Nearest x (fixedUnits 8 x) := by
  rw [Nearest, ← ratio_eq]
  exact roundHalfEven_near x.denominator_pos

/-- A binary fraction lies half way between two units only where the lower one ends in two or seven. -/
theorem mod_five_of_halfway {x : Binary64} {u : ℕ} (halfway : x.absolute * 10 ^ 8 = u + 1 / 2) :
    u % 5 = 2 := by
  have scale : (0 : ℚ) < x.denominator := Nat.cast_pos.mpr x.denominator_pos
  rw [← numerator_div_denominator, div_mul_eq_mul_div, div_eq_iff scale.ne'] at halfway
  have whole : 2 * x.numerator * 10 ^ 8 = (2 * u + 1) * x.denominator := by
    have cast : (2 * x.numerator * 10 ^ 8 : ℚ) = (2 * u + 1) * x.denominator := by linarith
    exact_mod_cast cast
  have divides : 5 ∣ (2 * u + 1) * x.denominator := ⟨2 * x.numerator * (2 ^ 8 * 5 ^ 7), by
    rw [← whole]
    ring⟩
  have coprime : Nat.Coprime 5 x.denominator := by
    rw [denominator, Nat.one_shiftLeft]
    exact Nat.Coprime.pow_right _ (by decide)
  have odd := coprime.dvd_of_dvd_mul_right divides
  omega

/-- Which of two equally near numbers of units is taken shows in the last two places only. -/
theorem Nearest.div_hundred {x : Binary64} {u v : ℕ} (first : Nearest x u) (second : Nearest x v) :
    u / 100 = v / 100 := by
  wlog le : u ≤ v generalizing u v
  · exact (this second first (Nat.le_of_not_le le)).symm
  rw [Nearest, abs_le] at first second
  have close : (v : ℚ) ≤ u + 1 := by linarith
  have steps : v ≤ u + 1 := by exact_mod_cast close
  rcases Nat.lt_or_ge u v with less | same
  · obtain rfl : v = u + 1 := by omega
    push_cast at second
    have halfway : x.absolute * 10 ^ 8 = u + 1 / 2 := by linarith
    have place := mod_five_of_halfway halfway
    omega
  · rw [Nat.le_antisymm le same]

end Rounding

def room (x : Binary64) : ℕ := if x.isNegative then 7 else 8

/-- Places for which there is room behind the point. -/
def places (x : Binary64) (whole : List Char) : ℕ := room x - 1 - whole.length

def truncated (places : ℕ) (q : ℚ) : ℚ := ⌊q * 10 ^ places⌋₊ / 10 ^ places

/-- A field of eight characters: blanks, a sign, the whole part of `r` in its digits, a point, and such
places that it reads as `r` without those for which there is no room. -/
structure Shows (x : Binary64) (r : ℚ) (field whole fraction : List Char) : Prop where
  length : field.length = 8
  layout : ∃ blanks, field = List.replicate blanks ' ' ++
    ((if x.isNegative then ['-'] else []) ++ whole ++ '.' :: fraction)
  whole_eq : whole = digits ⌊r⌋₊
  canonical : whole.head? = some '0' → whole = ['0']
  digits : AllDigits fraction
  short : fraction.length ≤ places x whole
  last : fraction.getLast? ≠ some '0'
  value : real? field = some (signed x.isNegative (truncated (places x whole) r))

section Truncation

theorem length_signText (x : Binary64) : (signText x).length + room x = 8 := by
  rw [signText, room]
  cases x.isNegative <;> rfl

theorem field_bound : powerOfTen fieldWidth = 10 ^ 8 := rfl

theorem front_eq (x : Binary64) : front x = signText x ++ digits (fixedUnits 8 x / 10 ^ 8) := by
  rw [front, field_bound, fieldWidth]

theorem back_eq (x : Binary64) : back x = padded 8 (fixedUnits 8 x % 10 ^ 8) := by
  rw [back, field_bound, fieldWidth]

theorem length_front (x : Binary64) :
    (front x).length + room x = 8 + (digits (fixedUnits 8 x / 10 ^ 8)).length := by
  have sign := length_signText x
  rw [front_eq, List.length_append]
  omega

theorem length_back (x : Binary64) : (back x).length = 8 := by
  rw [back_eq]
  exact length_padded (by decide) (Nat.mod_lt _ (by decide))

theorem value_back (x : Binary64) : value (back x) = fixedUnits 8 x % 10 ^ 8 := by
  rw [back_eq, value_padded]

theorem div_eq_of_div_hundred {u v : ℕ} (same : u / 100 = v / 100) (k : ℕ) :
    u / 10 ^ (k + 2) = v / 10 ^ (k + 2) := by
  rw [Nat.pow_add, Nat.mul_comm, ← Nat.div_div_eq_div_mul, ← Nat.div_div_eq_div_mul]
  exact congrArg (· / 10 ^ k) same

theorem value_cut (x : Binary64) {k : ℕ} (few : k ≤ 8) :
    value (digits (fixedUnits 8 x / 10 ^ 8) ++ (back x).take k) = fixedUnits 8 x / 10 ^ (8 - k) := by
  have split : (10 : ℕ) ^ 8 = 10 ^ (8 - k) * 10 ^ k := by
    rw [← Nat.pow_add, Nat.sub_add_cancel few]
  have parts := Nat.div_add_mod (fixedUnits 8 x) (10 ^ 8)
  have behind : AllDigits (back x) := (allDigits_digits _).leftpad fieldWidth
  rw [value_append, value_digits, value_take behind, value_back, List.length_take, length_back,
    Nat.min_eq_left few]
  nth_rewrite 3 [← parts]
  nth_rewrite 3 [split]
  rw [Nat.mul_assoc, Nat.mul_add_div (Nat.pow_pos (by decide)), Nat.mul_comm]

theorem truncated_div (u k : ℕ) (few : k ≤ 8) :
    truncated k ((u : ℚ) / 10 ^ 8) = (u / 10 ^ (8 - k) : ℕ) / 10 ^ k := by
  have split : (10 : ℚ) ^ 8 = 10 ^ (8 - k) * 10 ^ k := by
    rw [← pow_add, Nat.sub_add_cancel few]
  have scaled : (u : ℚ) / 10 ^ 8 * 10 ^ k = (u : ℚ) / (10 ^ (8 - k) : ℕ) := by
    rw [split]
    push_cast
    field_simp
  rw [truncated, scaled, Nat.floor_div_eq_div]

theorem floor_div (u : ℕ) : ⌊(u : ℚ) / 10 ^ 8⌋₊ = u / 10 ^ 8 := by
  have floor := Nat.floor_div_eq_div (K := ℚ) u (10 ^ 8)
  rwa [Nat.cast_pow, Nat.cast_ofNat] at floor

theorem Nearest.div_eq {x : Binary64} {u : ℕ} (near : Nearest x u) (k : ℕ) :
    fixedUnits 8 x / 10 ^ (k + 2) = u / 10 ^ (k + 2) :=
  div_eq_of_div_hundred ((nearest_fixedUnits x).div_hundred near) k

theorem isSome_real_iff {x : Binary64} (finite : x.isFinite = true) {u : ℕ} (near : Nearest x u) :
    (real x).isSome = true ↔ (u : ℚ) / 10 ^ 8 < 10 ^ (room x - 1) := by
  have widths : 7 ≤ room x := by
    rw [room]
    split <;> decide
  have front := length_front x
  have fits : (real x).isSome = true ↔ (Column.front x).length < fieldWidth := by
    rw [real_of_isFinite finite]
    split <;> simp [*]
  calc (real x).isSome = true
    _ ↔ (digits (fixedUnits 8 x / 10 ^ 8)).length ≤ room x - 1 := by
      rw [fits, fieldWidth]
      omega
    _ ↔ u / 10 ^ 8 < 10 ^ (room x - 1) := by
      rw [length_digits_le_iff (by omega), near.div_eq 6]
    _ ↔ u < 10 ^ (room x - 1) * 10 ^ 8 := Nat.div_lt_iff_lt_mul (by decide)
    _ ↔ (u : ℚ) / 10 ^ 8 < 10 ^ (room x - 1) := by
      rw [div_lt_iff₀ (by norm_num)]
      exact_mod_cast Iff.rfl

theorem places_le (x : Binary64) (n : ℕ) : places x (digits n) ≤ 6 := by
  have some := length_digits_pos n
  have widths : room x ≤ 8 := by
    rw [room]
    split <;> decide
  rw [places]
  omega

theorem real_eq_some_places {x : Binary64} {field : List Char} (fits : real x = some field) :
    field = rightAligned ((if x.isNegative then ['-'] else []) ++ digits (fixedUnits 8 x / 10 ^ 8) ++
      '.' :: withoutTrailingZeros
        ((back x).take (places x (digits (fixedUnits 8 x / 10 ^ 8))))) := by
  have front := length_front x
  have behind : fieldWidth - (Column.front x).length - 1 =
      places x (digits (fixedUnits 8 x / 10 ^ 8)) := by
    rw [places, fieldWidth]
    omega
  have parts := (real_eq_some fits).2
  rwa [behind] at parts

theorem shows_of_real {x : Binary64} {u : ℕ} (near : Nearest x u) {field : List Char}
    (fits : real x = some field) : ∃ whole fraction, Shows x (u / 10 ^ 8) field whole fraction := by
  have layout := real_eq_some_places fits
  have few := places_le x (fixedUnits 8 x / 10 ^ 8)
  have whole : digits (fixedUnits 8 x / 10 ^ 8) = digits ⌊(u : ℚ) / 10 ^ 8⌋₊ := by
    rw [floor_div, near.div_eq 6]
  generalize count : places x (digits (fixedUnits 8 x / 10 ^ 8)) = k at layout few
  have cut : ((back x).take k).length = k := by
    rw [List.length_take, length_back, Nat.min_eq_left (by omega)]
  have behind : AllDigits (withoutTrailingZeros ((back x).take k)) := by
    intro c member
    exact ((allDigits_digits _).leftpad fieldWidth).take k c
      ((withoutTrailingZeros_sublist _).subset member)
  refine ⟨digits (fixedUnits 8 x / 10 ^ 8), withoutTrailingZeros ((back x).take k),
    length_of_real fits, ⟨_, layout⟩, whole, ?_, behind, ?_, getLast?_withoutTrailingZeros _, ?_⟩
  · intro zero
    rcases Nat.eq_zero_or_pos (fixedUnits 8 x / 10 ^ 8) with none | positive
    · rw [none]
      rfl
    · exact absurd zero (head?_digits positive)
  · rw [count]
    exact (withoutTrailingZeros_sublist _).length_le.trans_eq cut
  · have split : 8 - k = 6 - k + 2 := by omega
    rw [layout, rightAligned, List.leftpad, real_behind_blanks,
      real_read_signed _ (digits_ne_nil _) (allDigits_digits _) behind, value_withoutTrailingZeros,
      value_cut x (by omega), cut, split, near.div_eq, ← split, count, truncated_div u k (by omega)]

end Truncation

/-- A number has a field exactly when its nearest multiple of a unit has no more digits in front of the
point than there is room for, and the field shows that multiple cut off. -/
theorem real_shows_nearest (x : Binary64) :
    (x.isFinite = false → real x = none) ∧
    (x.isFinite = true → (∃ u : ℕ, Nearest x u) ∧ ∀ u : ℕ, Nearest x u →
      ((real x).isSome = true ↔ (u : ℚ) / 10 ^ 8 < 10 ^ (room x - 1)) ∧
      ∀ field, real x = some field →
        ∃ whole fraction, Shows x (u / 10 ^ 8) field whole fraction) := by
  constructor
  · exact real_of_not_isFinite
  · intro finite
    refine ⟨⟨_, nearest_fixedUnits x⟩, fun u near => ?_⟩
    exact ⟨isSome_real_iff finite near, fun field fits => shows_of_real near fits⟩

/-- Just below a hundred a number is carried up to it, just below ten millions it is carried out of its
field. -/
theorem real_shows_nearest_carried :
    let x : Binary64 := .ofRatio true 99999999996 1000000000
    let y : Binary64 := .ofRatio false 9999999999999999 1000000000
    (x.isFinite = true ∧ Nearest x 10000000000 ∧ real x = some "   -100.".toList ∧
      ∃ whole fraction,
        Shows x ((10000000000 : ℕ) / 10 ^ 8) "   -100.".toList whole fraction) ∧
    y.isFinite = true ∧ Nearest y 1000000000000000 ∧ real y = none := by
  intro x y
  have finite : x.isFinite = true ∧ y.isFinite = true := by decide +kernel
  have near : Nearest x 10000000000 ∧ Nearest y 1000000000000000 := by
    unfold Nearest
    decide +kernel
  have fits : real x = some "   -100.".toList := by decide +kernel
  have shown := ((real_shows_nearest x).2 finite.1).2 _ near.1
  have refused := ((real_shows_nearest y).2 finite.2).2 _ near.2
  refine ⟨⟨finite.1, near.1, fits, shown.2 _ fits⟩, finite.2, near.2, ?_⟩
  rw [← Option.not_isSome_iff_eq_none, refused.1]
  decide +kernel

end Column
end BeamRun
