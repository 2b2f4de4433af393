import BeamRun.Json.Numeral
import BeamRun.Proofs.Decimal.Digits
import BeamRun.Proofs.Json.Cursor

/-! Numerals: how they are written, and that reading takes them in up to their last digit. -/

namespace BeamRun.Json

open Decimal

namespace Numeral

def fractionChars (n : Numeral) : List Char :=
  if n.fraction = [] then [] else '.' :: n.fraction

def exponentChars (n : Numeral) : List Char :=
  match n.exponent with
  | none => []
  | some (down, ds) => 'e' :: (if down then '-' else '+') :: ds

def chars (n : Numeral) : List Char := n.whole ++ n.fractionChars ++ n.exponentChars

/-- What a reader takes for a numeral: no zero in front of other digits, and digits behind a mark. -/
structure WellFormed (n : Numeral) : Prop where
  whole_ne_nil : n.whole ≠ []
  whole_digits : AllDigits n.whole
  zero_alone : n.whole.head? = some '0' → n.whole = ['0']
  fraction_digits : AllDigits n.fraction
  exponent_ne_nil : ∀ down ds, n.exponent = some (down, ds) → ds ≠ []
  exponent_digits : ∀ down ds, n.exponent = some (down, ds) → AllDigits ds

end Numeral

namespace Reader

variable {ds rest : List Char}

def NoDigit (text : List Char) : Prop := ∀ c ∈ text.head?, c.isDigit = false

/-- Nothing comes next that could belong to a numeral. -/
def Ended (text : List Char) : Prop :=
  ∀ c ∈ text.head?, c.isDigit = false ∧ c ≠ '.' ∧ c ≠ 'e' ∧ c ≠ 'E'

theorem takeWhile_digits (digits : AllDigits ds) (stop : NoDigit rest) :
    (ds ++ rest).takeWhile Char.isDigit = ds := by
  induction ds with
  | nil =>
    cases rest with
    | nil => rfl
    | cons c rest => simp [stop c rfl]
  | cons d ds ih =>
    rw [List.cons_append, List.takeWhile_cons, if_pos (digits d List.mem_cons_self),
      ih fun c member => digits c (List.mem_cons_of_mem d member)]

theorem reads_digitRun (digits : AllDigits ds) (stop : NoDigit rest) :
    Reads digitRun (ds ++ rest) ds rest := by
  intro offset
  refine ⟨offset + ds.length, ?_⟩
  simp only [digitRun, takeWhile_digits digits stop, List.drop_left]

theorem reads_wholeDigits {n : Numeral} (formed : n.WellFormed) (stop : NoDigit rest) (atEnd : Fault) :
    Reads (wholeDigits atEnd) (n.whole ++ rest) n.whole rest := by
  refine (reads_peekChar _).bind ?_
  by_cases zero : n.whole.head? = some '0'
  · rw [formed.zero_alone zero]
    refine (reads_advance '0' rest).bind ((reads_peekChar rest).bind ?_)
    cases rest with
    | nil => exact reads_pure _ _
    | cons c rest =>
      have other : c.isDigit = false := stop c rfl
      simp only [List.head?_cons, other]
      exact reads_pure _ _
  · obtain ⟨c, cs, whole⟩ := List.exists_cons_of_ne_nil formed.whole_ne_nil
    have digit : c.isDigit = true := formed.whole_digits c (whole ▸ List.mem_cons_self)
    have run := reads_digitRun formed.whole_digits stop
    rw [whole] at zero run ⊢
    simp only [List.cons_append, List.head?_cons]
    split
    · next none => cases none
    · next here => exact absurd (by simpa using here) zero
    · next d _ here =>
      cases here
      rw [if_pos digit]
      exact run

theorem Ended.noDigit (stop : Ended rest) : NoDigit rest := fun c first => (stop c first).1

theorem noDigit_cons {c : Char} (other : c.isDigit = false) : NoDigit (c :: rest) := by
  intro d first
  cases first
  exact other

theorem no_digit_before_exponent {n : Numeral} (stop : Ended rest) :
    NoDigit (n.exponentChars ++ rest) := by
  unfold Numeral.exponentChars
  split
  · exact stop.noDigit
  · exact noDigit_cons rfl

theorem reads_fractionDigits {n : Numeral} (formed : n.WellFormed) (stop : Ended rest)
    (atEnd : Fault) :
    Reads (fractionDigits atEnd) (n.fractionChars ++ (n.exponentChars ++ rest)) n.fraction
      (n.exponentChars ++ rest) := by
  refine (reads_peekChar _).bind ?_
  unfold Numeral.fractionChars
  cases digits : n.fraction with
  | nil =>
    have noPoint : (n.exponentChars ++ rest).head? ≠ some '.' := by
      unfold Numeral.exponentChars
      split
      · exact fun point => (stop '.' point).2.1 rfl
      · simp
    rw [if_pos rfl, List.nil_append]
    split
    · next point => exact absurd point noPoint
    · exact reads_pure _ _
  | cons d ds =>
    rw [if_neg (List.cons_ne_nil d ds)]
    refine (reads_advance '.' _).bind ?_
    have run := reads_digitRun formed.fraction_digits (no_digit_before_exponent (n := n) stop)
    rw [digits] at run
    exact run.bind (reads_pure _ _)

theorem reads_exponentPart {n : Numeral} (formed : n.WellFormed) (stop : Ended rest) (atEnd : Fault) :
    Reads (exponentPart atEnd) (n.exponentChars ++ rest) n.exponent rest := by
  refine (reads_peekChar _).bind ?_
  unfold Numeral.exponentChars
  cases exponent : n.exponent with
  | none =>
    have noMark : ¬ (rest.head? = some 'e' ∨ rest.head? = some 'E') := by
      rintro (mark | mark)
      · exact (stop _ mark).2.2.1 rfl
      · exact (stop _ mark).2.2.2 rfl
    rw [List.nil_append, if_neg noMark]
    exact reads_pure _ _
  | some part =>
    rcases part with ⟨down, ds⟩
    have run := reads_digitRun (formed.exponent_digits down ds exponent) stop.noDigit
    obtain ⟨d, more, rfl⟩ := List.exists_cons_of_ne_nil (formed.exponent_ne_nil down ds exponent)
    refine (reads_advance 'e' _).bind ((reads_peekChar _).bind ?_)
    cases down with
    | true =>
      exact (reads_advance '-' _).bind (run.bind (reads_pure _ _))
    | false =>
      exact (reads_advance '+' _).bind (run.bind (reads_pure _ _))

theorem reads_numeral {n : Numeral} (formed : n.WellFormed) (stop : Ended rest) (atEnd : Fault) :
    Reads (numeral atEnd n.negative) (n.chars ++ rest) n rest := by
  have noDigit : NoDigit (n.fractionChars ++ (n.exponentChars ++ rest)) := by
    unfold Numeral.fractionChars
    split
    · exact no_digit_before_exponent stop
    · exact noDigit_cons rfl
  rw [Numeral.chars, List.append_assoc, List.append_assoc]
  refine (reads_wholeDigits formed noDigit atEnd).bind ?_
  refine (reads_fractionDigits formed stop atEnd).bind ?_
  exact (reads_exponentPart formed stop atEnd).bind (reads_pure _ _)

theorem reads_number {n : Numeral} (formed : n.WellFormed) (stop : Ended rest) {v : Number}
    (value : n.value? = some v) : Reads (number n.negative) (n.chars ++ rest) v rest := by
  refine (reads_numeral formed stop .endInValue).bind ?_
  rw [value]
  exact reads_pure v rest

end Reader

namespace Numeral

variable {ds : List Char}

theorem absorb_eq {significand : Nat} (fits : valueAfter significand ds < 0x10000000000000000) :
    absorb significand ds = (valueAfter significand ds, 0) := by
  induction ds generalizing significand with
  | nil => rfl
  | cons d ds ih =>
    have next : 10 * significand + digitValue d < 0x10000000000000000 :=
      Nat.lt_of_le_of_lt (le_valueAfter _ ds) fits
    rw [absorb, if_pos next, ih fits, valueAfter_cons]

theorem overflowLength_go_eq_none {read : Nat} (fits : valueAfter read ds ≤ exponentLimit)
    (count : Nat) : overflowLength.go read count ds = none := by
  induction ds generalizing read count with
  | nil => rfl
  | cons d ds ih =>
    have next : ¬ exponentLimit < 10 * read + digitValue d :=
      Nat.not_lt.mpr (Nat.le_trans (le_valueAfter _ ds) fits)
    rw [overflowLength.go, if_neg next]
    exact ih fits _

def coefficient (n : Numeral) : Nat := value (n.whole ++ n.fraction)

/-- The power of ten that the exponent and the point stand for. -/
def scale (n : Numeral) : Int :=
  match n.exponent with
  | none => -n.fraction.length
  | some (true, ds) => -n.fraction.length - value ds
  | some (false, ds) => -n.fraction.length + value ds

/-- No digit is left over and no exponent is too great. -/
structure Fits (n : Numeral) : Prop where
  coefficient_lt : n.coefficient < 0x10000000000000000
  exponent_le : ∀ down ds, n.exponent = some (down, ds) → value ds ≤ exponentLimit

theorem realValue_eq {n : Numeral} (fits : n.Fits) :
    n.realValue = signed n.negative (scaled n.coefficient n.scale) := by
  have all : valueAfter (value n.whole) n.fraction = n.coefficient := (valueAfter_append ..).symm
  have wholeFits : value n.whole < 0x10000000000000000 :=
    Nat.lt_of_le_of_lt (le_valueAfter _ n.fraction) (all ▸ fits.coefficient_lt)
  have whole : absorb 0 n.whole = (value n.whole, 0) := absorb_eq wholeFits
  have fraction : absorb (value n.whole) n.fraction = (n.coefficient, 0) := by
    rw [absorb_eq (all ▸ fits.coefficient_lt), all]
  unfold realValue scale
  simp only [whole, fraction, Nat.sub_zero]
  cases exponent : n.exponent with
  | none => simp
  | some part =>
    rcases part with ⟨down, ds⟩
    have short : overflowLength ds = none :=
      overflowLength_go_eq_none (fits.exponent_le down ds exponent) 0
    simp only [short]
    cases down
    · simp
    · simp

end Numeral

end BeamRun.Json
