import BeamRun.Proofs.Calendar
import BeamRun.Proofs.Json.Document
import BeamRun.Report.Timestamp

/-! Instants are read back from their written form, leap seconds and years of more than four digits
included. -/

namespace BeamRun

open Decimal

namespace Report.Timestamp

open Json.Reader (NoDigit noDigit_cons takeWhile_digits)

/-- An instant of the calendar; only the last second of a minute goes on into a leap second. -/
structure Valid (t : Timestamp) : Prop where
  year : hasYear t.date.year = true
  nanoseconds : t.nanoseconds < 2000000000
  leap : 1000000000 ≤ t.nanoseconds → t.seconds % 60 = 59

namespace Scan

variable {α β : Type} {text rest last ds : List Char}

/-- The scan takes `a` from the front of a text and leaves `rest`. -/
def Takes (s : Scan α) (text : List Char) (a : α) (rest : List Char) : Prop := s text = .ok (a, rest)

theorem takes_pure (a : α) (text : List Char) : Takes (pure a) text a text := rfl

theorem Takes.bind {s : Scan α} {f : α → Scan β} {a : α} {b : β} (first : Takes s text a rest)
    (second : Takes (f a) rest b last) : Takes (s >>= f) text b last := by
  change Except.bind (s text) _ = _
  rw [first]
  exact second

theorem takes_get (text : List Char) : Takes get text text text := rfl

theorem takes_set (text rest : List Char) : Takes (set rest) text () rest := rfl

theorem takes_skipBlanks (ink : ∀ c ∈ text.head?, Text.isBlank c = false) :
    Takes skipBlanks text () text := by
  have same : Text.dropBlanks text = text := by
    cases text with
    | nil => rfl
    | cons c rest => simp [Text.dropBlanks, ink c rfl]
  change Except.ok ((), Text.dropBlanks text) = _
  rw [same]

theorem ink_cons {c : Char} (ink : Text.isBlank c = false) (rest : List Char) :
    ∀ d ∈ (c :: rest).head?, Text.isBlank d = false := fun d first => by
  cases first
  exact ink

theorem ink_of_digits (digits : AllDigits ds) (nonempty : ds ≠ []) (rest : List Char) :
    ∀ c ∈ (ds ++ rest).head?, Text.isBlank c = false := by
  obtain ⟨d, ds, rfl⟩ := List.exists_cons_of_ne_nil nonempty
  intro c first
  cases first
  have ink : (!Text.isBlank d) = true :=
    Json.Reader.holds_of_digit (p := (!Text.isBlank ·)) (digits d List.mem_cons_self) (by decide)
  rwa [Bool.not_eq_true'] at ink

theorem takes_number {width : Nat} (digits : AllDigits ds) (nonempty : ds ≠ [])
    (fits : ds.length ≤ width) (stop : ds.length = width ∨ NoDigit rest)
    (small : value ds < 0x8000000000000000) : Takes (number width) (ds ++ rest) (value ds) rest := by
  have run : ((ds ++ rest).take width).takeWhile Char.isDigit = ds := by
    rw [List.take_append, List.take_of_length_le fits]
    refine takeWhile_digits digits ?_
    rcases stop with full | stop
    · intro c first
      simp [full] at first
    · intro c first
      rw [List.head?_take] at first
      split at first
      · cases first
      · exact stop c first
  refine (takes_get _).bind ?_
  have some : (ds ++ rest).isEmpty = false := by simp [nonempty]
  simp only [run, some, nonempty, List.isEmpty_iff, List.drop_left, Nat.not_le.mpr small,
    Bool.false_eq_true, if_false]
  exact (takes_set _ rest).bind (takes_pure _ rest)

theorem takes_number_padded {width n : Nat} (positive : 0 < width) (narrow : width ≤ 18)
    (fits : n < 10 ^ width) {limit : Nat} (room : width ≤ limit) (stop : width = limit ∨ NoDigit rest) :
    Takes (number limit) (padded width n ++ rest) n rest := by
  have length := length_padded positive fits
  have small : n < 0x8000000000000000 :=
    Nat.lt_of_lt_of_le fits (Nat.le_trans (Nat.pow_le_pow_right (by decide) narrow) (by decide))
  have taken := takes_number (allDigits_padded width n) (padded_ne_nil width n) (length ▸ room)
    (length ▸ stop) ((value_padded width n).symm ▸ small)
  rwa [value_padded] at taken

theorem takes_part {low high n : Nat} (fits : n < 100) (within : low ≤ n ∧ n ≤ high) (rest : List Char) :
    Takes (part 2 low high) (two n ++ rest) n rest := by
  refine (takes_skipBlanks (ink_of_digits (allDigits_padded 2 n) (padded_ne_nil 2 n) rest)).bind ?_
  refine (takes_number_padded (by decide) (by decide) fits (Nat.le_refl 2) (.inl rfl)).bind ?_
  rw [if_pos within]
  exact takes_pure n rest

theorem takes_mark {c : Char} (ink : Text.isBlank c = false) (rest : List Char) :
    Takes (mark c) (c :: rest) () rest := by
  refine (takes_skipBlanks (ink_cons ink rest)).bind ((takes_get _).bind ?_)
  simp only [if_true]
  exact takes_set _ rest

theorem takes_number_rest {n : Nat} (small : n < 0x8000000000000000) (rest : List Char) :
    Takes (number (padded 4 n ++ '-' :: rest).length) (padded 4 n ++ '-' :: rest) n ('-' :: rest) := by
  have room : (padded 4 n).length ≤ (padded 4 n ++ '-' :: rest).length := by simp
  have taken := takes_number (allDigits_padded 4 n) (padded_ne_nil 4 n) room
    (.inr (noDigit_cons (by decide) : NoDigit ('-' :: rest))) ((value_padded 4 n).symm ▸ small)
  rwa [value_padded] at taken

theorem takes_signed {y : Int} (small : y.natAbs < 0x8000000000000000) (rest : List Char) :
    Takes signed (yearText y ++ '-' :: rest) y ('-' :: rest) := by
  unfold yearText
  split
  · next plain =>
    have fits : y.toNat < 10 ^ 4 := by omega
    have taken := takes_number_padded (by decide) (by decide) fits (Nat.le_refl 4)
      (.inl rfl : 4 = 4 ∨ NoDigit ('-' :: rest))
    have whole : ((y.toNat : Nat) : Int) = y := Int.toNat_of_nonneg plain.1
    obtain ⟨d, ds, text⟩ := List.exists_cons_of_ne_nil (padded_ne_nil 4 y.toNat)
    have digit : d.isDigit = true := allDigits_padded 4 y.toNat d (text ▸ List.mem_cons_self)
    rw [text] at taken ⊢
    refine (takes_get _).bind ?_
    split
    · next same =>
      cases same
      exact absurd digit (by decide)
    · next same =>
      cases same
      exact absurd digit (by decide)
    · refine taken.bind ?_
      rw [whole]
      exact takes_pure y _
  · by_cases negative : y < 0
    · rw [if_pos negative]
      refine (takes_get _).bind ((takes_set _ _).bind ((takes_number_rest small rest).bind ?_))
      have whole : -(y.natAbs : Int) = y := by omega
      rw [whole]
      exact takes_pure y _
    · rw [if_neg negative]
      refine (takes_get _).bind ((takes_set _ _).bind ((takes_number_rest small rest).bind ?_))
      have whole : (y.natAbs : Int) = y := by omega
      rw [whole]
      exact takes_pure y _

theorem ink_of_yearText (y : Int) (rest : List Char) :
    ∀ c ∈ (yearText y ++ rest).head?, Text.isBlank c = false := by
  unfold yearText
  split
  · exact ink_of_digits (allDigits_padded 4 _) (padded_ne_nil 4 _) rest
  · split <;> exact ink_cons (by decide) _

theorem takes_year {y : Int} (valid : hasYear y = true) (rest : List Char) :
    Takes year (yearText y ++ '-' :: rest) y ('-' :: rest) := by
  have range : -262143 ≤ y ∧ y ≤ 262142 := by simpa [hasYear] using valid
  refine (takes_skipBlanks (ink_of_yearText y _)).bind ?_
  refine (takes_signed (by omega) rest).bind ?_
  rw [if_pos (by omega)]
  exact takes_pure y _

theorem takes_separator (rest : List Char) : Takes separator ('T' :: rest) () rest :=
  (takes_get _).bind (takes_set _ rest)

theorem takes_offset (rest : List Char) : Takes offset ('Z' :: rest) 0 rest :=
  (takes_get _).bind ((takes_set _ rest).bind (takes_pure _ rest))

theorem takes_fraction_digits {k n : Nat} (positive : 0 < k) (narrow : k ≤ 9) (fits : n < 10 ^ k)
    (stop : NoDigit rest) :
    Takes fraction ('.' :: (padded k n ++ rest)) (n * powerOfTen (9 - k)) rest := by
  have digits : ((padded k n ++ rest).takeWhile Char.isDigit).length = k := by
    rw [takeWhile_digits (allDigits_padded k n) stop, length_padded positive fits]
  refine (takes_get _).bind ((takes_set _ _).bind ?_)
  refine (takes_number_padded positive (by omega) fits narrow (.inr stop)).bind ?_
  have left : (padded k n ++ rest).drop k = rest := by
    have length := length_padded positive fits
    exact List.drop_left' length
  simp only [digits, left]
  exact (takes_set _ rest).bind (takes_pure _ rest)

theorem takes_fraction {f : Nat} (small : f < 1000000000) (stop : NoDigit rest)
    (noPoint : rest.head? ≠ some '.') : Takes fraction (fractionText f ++ rest) f rest := by
  -- Three digits, six or nine: whatever is left out behind them is zero.
  have digits (k : Nat) (positive : 0 < k) (narrow : k ≤ 9) (fits : f / powerOfTen (9 - k) < 10 ^ k)
      (whole : f / powerOfTen (9 - k) * powerOfTen (9 - k) = f) :
      Takes fraction ('.' :: (padded k (f / powerOfTen (9 - k)) ++ rest)) f rest := by
    have taken := takes_fraction_digits positive narrow fits stop
    rwa [whole] at taken
  unfold fractionText
  split
  · next none =>
    subst none
    refine (takes_get _).bind ?_
    split
    · next text => exact absurd (congrArg List.head? text) noPoint
    · exact takes_pure 0 rest
  · have six : powerOfTen 6 = 1000000 := rfl
    have three : powerOfTen 3 = 1000 := rfl
    split
    · exact digits 3 (by decide) (by decide) (by rw [six]; omega) (by rw [six]; omega)
    · split
      · exact digits 6 (by decide) (by decide) (by rw [three]; omega) (by rw [three]; omega)
      · have one : f / powerOfTen 0 = f := Nat.div_one f
        have nine := digits 9 (by decide) (by decide)
        rw [one] at nine
        exact nine small (Nat.mul_one f)

theorem takes_lift (a : α) (text : List Char) : Takes (liftM (Except.ok a : Except Fault α)) text a text :=
  rfl

end Scan

variable {t : Timestamp}

theorem clock_lt (t : Timestamp) : (t.seconds % secondsPerDay).toNat < 86400 := by
  rw [secondsPerDay]
  omega

/-- A day and a time of day of an instant make the instant; a sixtieth second is a leap second. -/
theorem ofLocal_eq_ok {day : Date} {hour minute second nanoseconds : Nat} (valid : t.Valid)
    (inMonth : day.day ≤ Date.daysInMonth day.year day.month) (inCalendar : hasYear day.year = true)
    (seconds : day.dayNumber * secondsPerDay +
      (hour * 3600 + minute * 60 + (if second = 60 then 59 else second) : Nat) = t.seconds)
    (nanos : nanoseconds + (if second = 60 then 1000000000 else 0) = t.nanoseconds) :
    ofLocal day hour minute second nanoseconds 0 = .ok t := by
  have possible : (!hasYear day.year || decide (Date.daysInMonth day.year day.month < day.day)) = false := by
    simp [inCalendar, inMonth]
  have zone : -secondsPerDay < 0 ∧ 0 < secondsPerDay := by decide
  have instant : (⟨day.dayNumber * secondsPerDay +
      (hour * 3600 + minute * 60 + (if second = 60 then 59 else second) : Nat) - 0,
      nanoseconds + (if second = 60 then 1000000000 else 0)⟩ : Timestamp) = t := by
    rw [seconds, nanos, Int.sub_zero]
  simp only [ofLocal, possible, zone, and_self, not_true_eq_false, Bool.false_eq_true, if_false]
  rw [instant, if_pos valid.year]

theorem ofLocal_parts (valid : t.Valid) :
    ofLocal t.date ((t.seconds % secondsPerDay).toNat / 3600)
      ((t.seconds % secondsPerDay).toNat / 60 % 60)
      ((t.seconds % secondsPerDay).toNat % 60 + (if 1000000000 ≤ t.nanoseconds then 1 else 0))
      (if 1000000000 ≤ t.nanoseconds then t.nanoseconds - 1000000000 else t.nanoseconds) 0 = .ok t := by
  have clock := t.clock_lt
  have inMonth := (Date.ofDayNumber_ranges (t.seconds / secondsPerDay)).2.2.2
  have number : t.date.dayNumber = t.seconds / secondsPerDay := Date.dayNumber_ofDayNumber _
  have whole : t.seconds / secondsPerDay * secondsPerDay + (t.seconds % secondsPerDay).toNat =
      t.seconds := by
    simp only [secondsPerDay]
    omega
  have minute : (t.seconds % secondsPerDay).toNat % 60 = (t.seconds % 60).toNat := by
    simp only [secondsPerDay]
    omega
  by_cases long : 1000000000 ≤ t.nanoseconds
  · have last := valid.leap long
    have sixtieth : (t.seconds % secondsPerDay).toNat % 60 + 1 = 60 := by omega
    simp only [long, if_true, sixtieth]
    refine ofLocal_eq_ok valid inMonth valid.year ?_ ?_
    · rw [number, if_pos rfl]
      omega
    · rw [if_pos rfl]
      omega
  · have other : (t.seconds % secondsPerDay).toNat % 60 ≠ 60 := by omega
    simp only [long, if_false, Nat.add_zero]
    refine ofLocal_eq_ok valid inMonth valid.year ?_ ?_
    · rw [number, if_neg other]
      omega
    · rw [if_neg other]
      omega

theorem takes_scan (valid : t.Valid) : Scan.Takes scan (t.chars ++ ['Z']) t [] := by
  have month : 1 ≤ t.date.month ∧ t.date.month ≤ 12 := (Date.ofDayNumber_ranges _).1
  have day : 1 ≤ t.date.day ∧ t.date.day ≤ 31 :=
    ⟨(Date.ofDayNumber_ranges _).2.1, (Date.ofDayNumber_ranges _).2.2.1⟩
  have clock := t.clock_lt
  have nanoseconds := valid.nanoseconds
  have second : (t.seconds % secondsPerDay).toNat % 60 + (if 1000000000 ≤ t.nanoseconds then 1 else 0) ≤
      60 := by
    split <;> omega
  have fraction : (if 1000000000 ≤ t.nanoseconds then t.nanoseconds - 1000000000 else t.nanoseconds) <
      1000000000 := by
    split <;> omega
  rw [chars]
  simp only [List.append_assoc, List.cons_append]
  refine (Scan.takes_year valid.year _).bind ?_
  refine (Scan.takes_mark (by decide) _).bind ?_
  refine (Scan.takes_part (Nat.lt_of_le_of_lt month.2 (by decide)) month _).bind ?_
  refine (Scan.takes_mark (by decide) _).bind ?_
  refine (Scan.takes_part (Nat.lt_of_le_of_lt day.2 (by decide)) day _).bind ?_
  refine (Scan.takes_separator _).bind ?_
  refine (Scan.takes_part (by omega) (by omega) _).bind ?_
  refine (Scan.takes_mark (by decide) _).bind ?_
  refine (Scan.takes_part (by omega) (by omega) _).bind ?_
  refine (Scan.takes_mark (by decide) _).bind ?_
  refine (Scan.takes_part (Nat.lt_of_le_of_lt second (by decide)) ⟨Nat.zero_le _, second⟩ _).bind ?_
  refine (Scan.takes_fraction fraction (noDigit_cons (by decide)) (by decide)).bind ?_
  refine (Scan.takes_skipBlanks (Scan.ink_cons (by decide) [])).bind ?_
  refine (Scan.takes_offset _).bind ?_
  refine (Scan.takes_skipBlanks (by simp)).bind ?_
  refine (Scan.takes_get _).bind ?_
  change Scan.Takes (liftM (ofLocal t.date _ _ _ _ 0)) [] t []
  rw [ofLocal_parts valid]
  exact Scan.takes_lift t []

theorem parse_text (valid : t.Valid) : parse t.text = .ok t := by
  have taken := takes_scan valid
  rw [parse, text, String.toList_ofList]
  change Except.map _ (scan (t.chars ++ ['Z'])) = _
  rw [taken]
  rfl

example : (⟨1483228799, 1500000000⟩ : Timestamp).text = "2016-12-31T23:59:60.500Z" := by decide +kernel

end Report.Timestamp
end BeamRun
