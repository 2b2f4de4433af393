import BeamRun.Proofs.Binary64
import BeamRun.Proofs.Json.Numeral

/-! The numerals by which numbers stand in documents, and the decimals that a reader takes from them. -/

namespace BeamRun.Json

open Decimal

namespace Numeral

def integral (negative : Bool) (d : Decimal) : Numeral where
  negative
  whole := digits d.coefficient ++ List.replicate d.exponent.toNat '0'
  fraction := ['0']
  exponent := none

def pointed (negative : Bool) (d : Decimal) : Numeral :=
  let places := (-d.exponent).toNat
  let ds := (digits d.coefficient).leftpad (places + 1) '0'
  { negative
    whole := ds.take (ds.length - places)
    fraction := ds.drop (ds.length - places)
    exponent := none }

/-- The power of ten that the first digit counts. -/
def leading (d : Decimal) : Int := d.exponent + (digits d.coefficient).length - 1

def scientific (negative : Bool) (d : Decimal) : Numeral where
  negative
  whole := (digits d.coefficient).take 1
  fraction := (digits d.coefficient).drop 1
  exponent := some (leading d < 0, digits (leading d).natAbs)

def ofDecimal (negative : Bool) (d : Decimal) : Numeral :=
  if Number.layout.positional (leading d) then
    if 0 ≤ d.exponent then integral negative d else pointed negative d
  else scientific negative d

/-- The same decimal with the zero that whole numbers carry behind their point. -/
def written (d : Decimal) : Decimal :=
  if Number.layout.positional (leading d) ∧ 0 ≤ d.exponent then
    ⟨d.coefficient * powerOfTen (d.exponent.toNat + 1), -1⟩
  else d

variable {d : Decimal} {negative : Bool}

theorem leftpad_length_pos (places : Nat) (ds : List Char) :
    places + 1 ≤ (ds.leftpad (places + 1) '0').length := by
  rw [List.length_leftpad]
  exact Nat.le_max_left _ _

theorem positionalText_of_whole (whole : 0 ≤ d.exponent) (negative : Bool) :
    Number.layout.positionalText d = (integral negative d).chars := by
  simp [Layout.positionalText, whole, integral, chars, fractionChars, exponentChars, Number.layout]

theorem fraction_pointed_ne_nil (small : ¬ 0 ≤ d.exponent) (negative : Bool) :
    (pointed negative d).fraction ≠ [] := by
  have long := leftpad_length_pos (-d.exponent).toNat (digits d.coefficient)
  rw [← List.length_pos_iff, pointed, List.length_drop]
  omega

theorem positionalText_of_places (small : ¬ 0 ≤ d.exponent) (negative : Bool) :
    Number.layout.positionalText d = (pointed negative d).chars := by
  rw [Layout.positionalText, if_neg small, chars, fractionChars,
    if_neg (fraction_pointed_ne_nil small negative)]
  simp [pointed, exponentChars]

theorem scientificText_eq (d : Decimal) (negative : Bool) :
    scientificText d = (scientific negative d).chars := by
  have some := length_digits_pos d.coefficient
  have tail : (if (digits d.coefficient).length = 1 then [] else '.' :: (digits d.coefficient).drop 1) =
      (scientific negative d).fractionChars := by
    simp only [fractionChars, scientific, List.drop_eq_nil_iff]
    exact ite_congr (propext (by omega)) (fun _ => rfl) (fun _ => rfl)
  have mark : ('e' :: if leading d < 0 then [] else ['+']) ++ ofInt (leading d) =
      (scientific negative d).exponentChars := by
    by_cases down : leading d < 0
    · simp [exponentChars, scientific, down, ofInt]
    · simp [exponentChars, scientific, down, ofInt]
  rw [chars, ← tail, ← mark, ← List.append_assoc]
  rfl

theorem decimalText_eq (d : Decimal) (negative : Bool) :
    Number.layout.decimalText d = (ofDecimal negative d).chars := by
  rw [Layout.decimalText, ofDecimal]
  change (if Number.layout.positional (leading d) then _ else _) = _
  split
  · split
    · next whole => exact positionalText_of_whole whole negative
    · next small => exact positionalText_of_places small negative
  · exact scientificText_eq d negative

theorem positional_iff (k : Int) : Number.layout.positional k = true ↔ -5 ≤ k ∧ k ≤ 15 := by
  simp [Number.layout]

theorem head?_append_zeros (positive : 0 < d.coefficient) (n : Nat) :
    (digits d.coefficient ++ List.replicate n '0').head? ≠ some '0' := by
  have first := head?_digits positive
  cases h : digits d.coefficient with
  | nil => exact absurd h (digits_ne_nil _)
  | cons c cs =>
    rw [h] at first
    exact first

theorem zero_alone_of_length {cs : List Char} (one : cs.length = 1) (zero : cs.head? = some '0') :
    cs = ['0'] := by
  obtain ⟨c, rfl⟩ := List.length_eq_one_iff.mp one
  exact congrArg (· :: []) (Option.some.inj zero)

theorem wellFormed_integral (positive : 0 < d.coefficient) (negative : Bool) :
    (integral negative d).WellFormed where
  whole_ne_nil := List.append_ne_nil_of_left_ne_nil
    (digits_ne_nil _) _
  whole_digits := (allDigits_digits _).append (allDigits_zeros _)
  zero_alone zero := absurd zero (head?_append_zeros positive _)
  fraction_digits := allDigits_zeros 1
  exponent_ne_nil _ _ none := by cases none
  exponent_digits _ _ none := by cases none

theorem wellFormed_pointed (positive : 0 < d.coefficient) (negative : Bool) :
    (pointed negative d).WellFormed where
  whole_ne_nil := by
    have long := leftpad_length_pos (-d.exponent).toNat (digits d.coefficient)
    apply List.ne_nil_of_length_pos
    rw [pointed, List.length_take]
    omega
  whole_digits := ((allDigits_digits _).leftpad _).take _
  zero_alone zero := by
    rcases Nat.lt_or_ge (digits d.coefficient).length ((-d.exponent).toNat + 1) with few | many
    · apply zero_alone_of_length _ zero
      rw [pointed, List.length_take, List.length_leftpad]
      omega
    · have padless : (digits d.coefficient).leftpad ((-d.exponent).toNat + 1) '0' =
          digits d.coefficient := by
        rw [List.leftpad, Nat.sub_eq_zero_of_le many]
        rfl
      simp only [pointed, padless] at zero
      rw [List.head?_take, if_neg (by omega)] at zero
      exact absurd zero (head?_digits positive)
  fraction_digits := ((allDigits_digits _).leftpad _).drop _
  exponent_ne_nil _ _ none := by cases none
  exponent_digits _ _ none := by cases none

theorem wellFormed_scientific (negative : Bool) (d : Decimal) :
    (scientific negative d).WellFormed where
  whole_ne_nil := by
    have some := length_digits_pos d.coefficient
    apply List.ne_nil_of_length_pos
    rw [scientific, List.length_take]
    omega
  whole_digits := (allDigits_digits _).take 1
  zero_alone zero := by
    have some := length_digits_pos d.coefficient
    apply zero_alone_of_length _ zero
    rw [scientific, List.length_take]
    omega
  fraction_digits := (allDigits_digits _).drop 1
  exponent_ne_nil _ _ here := by
    cases here
    exact digits_ne_nil _
  exponent_digits _ _ here := by
    cases here
    exact allDigits_digits _

theorem wellFormed_ofDecimal (positive : 0 < d.coefficient) (negative : Bool) :
    (ofDecimal negative d).WellFormed := by
  unfold ofDecimal
  split
  · split
    · exact wellFormed_integral positive negative
    · exact wellFormed_pointed positive negative
  · exact wellFormed_scientific negative d

/-! Read back, the digits and the place of the point are the decimal's own. -/

theorem coefficient_integral (d : Decimal) (negative : Bool) :
    (integral negative d).coefficient = d.coefficient * powerOfTen (d.exponent.toNat + 1) := by
  have zeros : List.replicate d.exponent.toNat '0' ++ ['0'] = List.replicate (d.exponent.toNat + 1) '0' :=
    List.replicate_succ'.symm
  rw [coefficient, integral, List.append_assoc, zeros, value, valueAfter_append, valueAfter_zeros,
    ← value, value_digits]
  rfl

theorem coefficient_pointed (d : Decimal) (negative : Bool) :
    (pointed negative d).coefficient = d.coefficient := by
  rw [coefficient, pointed, List.take_append_drop, value_leftpad, value_digits]

theorem coefficient_scientific (d : Decimal) (negative : Bool) :
    (scientific negative d).coefficient = d.coefficient := by
  rw [coefficient, scientific, List.take_append_drop, value_digits]

theorem scale_pointed (small : ¬ 0 ≤ d.exponent) (negative : Bool) :
    (pointed negative d).scale = d.exponent := by
  have long := leftpad_length_pos (-d.exponent).toNat (digits d.coefficient)
  simp only [scale, pointed, List.length_drop]
  omega

theorem scale_scientific (d : Decimal) (negative : Bool) :
    (scientific negative d).scale = d.exponent := by
  have some := length_digits_pos d.coefficient
  by_cases down : leading d < 0
  · simp only [scale, scientific, down, decide_true, value_digits, List.length_drop]
    unfold leading at *
    omega
  · simp only [scale, scientific, down, decide_false, value_digits, List.length_drop]
    unfold leading at *
    omega

theorem decimal_ofDecimal (d : Decimal) (negative : Bool) :
    (ofDecimal negative d).coefficient = (written d).coefficient ∧
      (ofDecimal negative d).scale = (written d).exponent := by
  unfold ofDecimal written
  by_cases positional : Number.layout.positional (leading d) = true
  · by_cases whole : 0 ≤ d.exponent
    · simp only [positional, whole, if_true, and_self]
      exact ⟨coefficient_integral d negative, rfl⟩
    · simp only [positional, whole, if_true, if_false, and_false]
      exact ⟨coefficient_pointed d negative, scale_pointed whole negative⟩
  · rw [if_neg positional, if_neg fun both => positional both.1]
    exact ⟨coefficient_scientific d negative, scale_scientific d negative⟩

theorem length_digits_le {n : Nat} (bound : n < 0x10000000000000000) : (digits n).length ≤ 20 :=
  (length_digits_le_iff (by decide)).mpr (by omega)

theorem written_coefficient_lt (bound : d.coefficient < 0x10000000000000000) :
    (written d).coefficient < 0x10000000000000000 := by
  unfold written
  split
  · next whole =>
    have few := (positional_iff _).mp whole.1
    have digits := lt_pow_length_digits d.coefficient
    unfold leading at few
    calc d.coefficient * powerOfTen (d.exponent.toNat + 1)
      _ < 10 ^ (Decimal.digits d.coefficient).length * 10 ^ (d.exponent.toNat + 1) :=
        Nat.mul_lt_mul_of_pos_right digits (Nat.pow_pos (by decide))
      _ = 10 ^ ((Decimal.digits d.coefficient).length + (d.exponent.toNat + 1)) := (Nat.pow_add ..).symm
      _ ≤ 10 ^ 17 := Nat.pow_le_pow_right (by decide) (by omega)
      _ < 0x10000000000000000 := by decide
  · exact bound

theorem written_exponent (d : Decimal) :
    (written d).exponent = -1 ∨ (written d).exponent = d.exponent ∧ written d = d := by
  unfold written
  split
  · exact .inl rfl
  · exact .inr ⟨rfl, rfl⟩

theorem fits_ofDecimal (bound : d.coefficient < 0x10000000000000000)
    (small : d.exponent.natAbs ≤ 1000) (negative : Bool) : (ofDecimal negative d).Fits where
  coefficient_lt := by
    rw [(decimal_ofDecimal d negative).1]
    exact written_coefficient_lt bound
  exponent_le down ds here := by
    have few := length_digits_le bound
    unfold ofDecimal at here
    split at here
    · split at here
      · cases here
      · cases here
    · cases here
      rw [value_digits]
      unfold leading exponentLimit
      omega

theorem no_whole_value {n : Numeral} (marked : n.fraction ≠ [] ∨ n.exponent.isSome = true) :
    n.wholeValue? = none := by
  rw [wholeValue?, if_neg]
  rintro ⟨pointless, markless⟩
  rcases marked with some | some
  · exact some (List.isEmpty_iff.mp pointless)
  · rw [Option.isNone_iff_eq_none.mp markless] at some
    cases some

/-- Every real number has a point or an exponent. -/
theorem no_whole_value_of_decimal (negative : Bool) (d : Decimal) :
    (ofDecimal negative d).wholeValue? = none := by
  apply no_whole_value
  unfold ofDecimal
  split
  · split
    · exact .inl (List.cons_ne_nil _ _)
    · next small => exact .inl (fraction_pointed_ne_nil small negative)
  · exact .inr rfl

def ofFinite (x : Binary64) : Numeral :=
  if x.magnitude = 0 then ⟨x.isNegative, ['0'], ['0'], none⟩
  else ofDecimal x.isNegative (shortest .even x)

theorem negative_ofDecimal (negative : Bool) (d : Decimal) :
    (ofDecimal negative d).negative = negative := by
  unfold ofDecimal
  split
  · split <;> rfl
  · rfl

theorem negative_ofFinite (x : Binary64) : (ofFinite x).negative = x.isNegative := by
  unfold ofFinite
  split
  · rfl
  · exact negative_ofDecimal _ _

theorem text_eq {x : Binary64} (finite : x.isFinite = true) :
    Number.layout.text x = signText x ++ (ofFinite x).chars := by
  unfold Layout.text ofFinite
  simp only [Binary64.isNaN_of_isFinite finite, finite, Bool.not_true, Bool.false_eq_true, if_false]
  split
  · rfl
  · rw [decimalText_eq _ x.isNegative]
    rfl

def ofWhole (i : Int) : Numeral := ⟨i < 0, digits i.natAbs, [], none⟩

theorem ofInt_eq (i : Int) :
    ofInt i = (if i < 0 then ['-'] else []) ++ (ofWhole i).chars := by
  unfold ofInt
  split <;> simp [ofWhole, chars, fractionChars, exponentChars]

theorem wellFormed_ofWhole (i : Int) : (ofWhole i).WellFormed where
  whole_ne_nil := digits_ne_nil _
  whole_digits := allDigits_digits _
  zero_alone zero := by
    rcases Nat.eq_zero_or_pos i.natAbs with none | positive
    · rw [ofWhole, none]
      rfl
    · exact absurd zero (head?_digits positive)
  fraction_digits _ member := by cases member
  exponent_ne_nil _ _ none := by cases none
  exponent_digits _ _ none := by cases none

theorem value_of_whole (n : WholeNumber) : (ofWhole n.val).value? = some (.whole n) := by
  rcases n with ⟨i, least, most⟩
  have same : (if i < 0 then -(i.natAbs : Int) else i.natAbs) = i := by omega
  have nonzero : ¬ (decide (i < 0) = true ∧ i = 0) := by
    simp only [decide_eq_true_eq]
    omega
  have read : (ofWhole i).wholeValue? = some ⟨i, least, most⟩ := by
    simp only [wholeValue?, ofWhole, value_digits, List.isEmpty_nil, Option.isNone_none, and_self,
      if_true, decide_eq_true_eq, same]
    rw [if_neg (by simpa using nonzero), dif_pos ⟨least, most⟩]
  rw [value?, read]

end Numeral

end BeamRun.Json
