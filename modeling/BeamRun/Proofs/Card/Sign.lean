import BeamRun.Proofs.Card
import BeamRun.Proofs.Column.Order
import BeamRun.Proofs.Validation.Acceptance

/-! Signs on cards. Checks compare values, cards write signs: what is checked to be at least zero may
still be zero with a sign, and that is the only number of which the sign is written. -/

namespace BeamRun

namespace Binary64

def negativeZero : Binary64 := zero.neg

theorem eq_negativeZero_iff {x : Binary64} :
    x = negativeZero ↔ x.isNegative = true ∧ x.magnitude = 0 := by
  constructor
  · intro same
    subst same
    decide
  · intro parts
    have whole := x.ofMagnitude_magnitude
    rw [parts.1, parts.2] at whole
    exact whole.symm

/-- Of the numbers that are at least zero only one has a sign. -/
theorem isNegative_iff_of_zero_le {x : Binary64} (finite : x.isFinite = true) (nonneg : zero ≤ x) :
    x.isNegative = true ↔ x = negativeZero := by
  rw [eq_negativeZero_iff]
  constructor
  · intro negative
    rcases (zero_le_iff finite).mp nonneg with none | positive
    · exact ⟨negative, none⟩
    · rw [negative] at positive
      cases positive
  · exact And.left

end Binary64

namespace Column

open Binary64 Decimal

theorem exists_digits_of_real {x : Binary64} {field : List Char} (fits : real x = some field) :
    ∃ whole fraction : List Char, AllDigits whole ∧ AllDigits fraction ∧
      field = rightAligned (signText x ++ whole ++ '.' :: fraction) := by
  obtain ⟨-, layout⟩ := real_eq_some fits
  have places : AllDigits (back x) := (allDigits_digits _).leftpad fieldWidth
  refine ⟨_, _, allDigits_digits _, ?_, layout⟩
  intro c member
  exact places.take _ c ((withoutTrailingZeros_sublist _).subset member)

theorem minus_mem_iff {x : Binary64} {field : List Char} (fits : real x = some field) :
    '-' ∈ field ↔ x.isNegative = true := by
  obtain ⟨whole, fraction, front, back, rfl⟩ := exists_digits_of_real fits
  have before := front.not_mem (show '-'.isDigit = false by decide)
  have behind := back.not_mem (show '-'.isDigit = false by decide)
  rw [rightAligned, List.leftpad, signText]
  cases x.isNegative <;> simp [before, behind]

theorem real_negativeZero : real negativeZero = some "     -0.".toList := by decide

/-- A field without a sign, unless it is that of zero with a sign, which then is all it shows; the
number in it is never below zero. -/
structure UnsignedUnlessZero (x : Binary64) (field : List Char) : Prop where
  minus : '-' ∈ field ↔ x = negativeZero
  zero : x = negativeZero → field = "     -0.".toList
  value : ∃ q, real? field = some q ∧ 0 ≤ q

theorem unsigned_unless_zero_of_field {x : Binary64} {field : List Char} (finite : x.isFinite = true)
    (nonneg : Binary64.zero ≤ x) (fits : real x = some field) : UnsignedUnlessZero x field where
  minus := (minus_mem_iff fits).trans (isNegative_iff_of_zero_le finite nonneg)
  zero same := by
    rw [same, real_negativeZero] at fits
    exact (Option.some.inj fits).symm
  value := by
    refine ⟨shown x, real_read_back fits, ?_⟩
    cases sign : x.isNegative with
    | false =>
      rw [shown_of_nonneg sign]
      exact cut_nonneg _ _
    | true =>
      have none := (eq_negativeZero_iff.mp ((isNegative_iff_of_zero_le finite nonneg).mp sign)).2
      rw [shown_of_zero (by rw [absolute, none, valueAt_zero])]

theorem UnsignedUnlessZero.congr {x y : Binary64} {field : List Char} (h : UnsignedUnlessZero x field)
    (same : x = negativeZero ↔ y = negativeZero) : UnsignedUnlessZero y field where
  minus := h.minus.trans same
  zero := fun zero => h.zero (same.mpr zero)
  value := h.value

end Column

namespace Card

open Binary64

section Percent

variable {x : Binary64}

theorem isNegative_percent (finite : x.isFinite = true) :
    (percent x).isNegative = x.isNegative := by
  have nonzero : (Binary64.ofNat 100).absolute ≠ 0 := by
    have least := one_le_absolute_ofNat (n := 100) (by decide)
    linarith
  rw [percent, isNegative_div finite nonzero, isNegative_ofNat, Bool.bne_false]

theorem percent_negativeZero : percent negativeZero = negativeZero := by decide +kernel

theorem isFinite_percent (finite : x.isFinite = true) : (percent x).isFinite = true :=
  isFinite_div finite (one_le_absolute_ofNat (by decide))

theorem zero_le_percent (finite : x.isFinite = true) (nonneg : zero ≤ x) : zero ≤ percent x := by
  cases sign : x.isNegative with
  | false =>
    rw [zero_le_iff (isFinite_percent finite), isNegative_percent finite]
    exact .inr sign
  | true =>
    rw [(isNegative_iff_of_zero_le finite nonneg).mp sign, percent_negativeZero]
    decide

theorem percent_eq_negativeZero_iff (finite : x.isFinite = true) (nonneg : zero ≤ x) :
    percent x = negativeZero ↔ x = negativeZero := by
  rw [← isNegative_iff_of_zero_le finite nonneg, ← isNegative_percent finite,
    isNegative_iff_of_zero_le (isFinite_percent finite) (zero_le_percent finite nonneg)]

end Percent

def valueColumn (text : String) (c : Card) : List Char := Column.field 0 (lineOf text c)

theorem unsigned_unless_zero_in_column {o : Options} (fit : o.tooWide? = none) {c : Card}
    {x : Binary64} (single : c.entries o = [.real x]) (finite : x.isFinite = true)
    (nonneg : zero ≤ x) : Column.UnsignedUnlessZero x (c.valueColumn o.cardText) := by
  have column : (Entry.real x).column = some (c.valueColumn o.cardText) :=
    column_lineOf fit (by rw [single]; rfl)
  exact Column.unsigned_unless_zero_of_field finite nonneg column

end Card

namespace Settings

open Binary64

/-- Cards of options that are accepted where the cut-off must never be negative. Each of the three
energies is what its field comes to in the payload or the defaults, and only where this is zero with a
sign is there a sign on its card. -/
theorem signed_only_at_zero {s : Settings} {p : Payload} {defaults m : Options} {text : String}
    (policy : s.neutronCutoff = .always) (accepted : s.judge p defaults = .ok m)
    (written : m.cards.result = .ok text) :
    (∀ f : Field, p.ComesTo defaults f (m.get f)) ∧
    Column.UnsignedUnlessZero m.meanEnergyLoss (Card.deltae.valueColumn text) ∧
    Column.UnsignedUnlessZero m.minEnergyLoss (Card.demin.valueColumn text) ∧
    Column.UnsignedUnlessZero m.lowEnergyNeutronCutOff (Card.neutrlcut.valueColumn text) := by
  have clean := ((judge_eq_ok_iff s p defaults m).mp accepted).1
  have sound := sound_of_judge accepted
  have cutOff : zero ≤ m.lowEnergyNeutronCutOff := by
    rcases sound.cutOff_tolerated with ⟨lenient, -⟩ | nonneg
    · rw [policy] at lenient
      cases lenient
    · exact nonneg
  obtain ⟨fit, rfl⟩ := Options.cards_result_eq_ok_iff.mp written
  have mean := Card.unsigned_unless_zero_in_column fit (c := .deltae) rfl
    (Card.isFinite_percent sound.mean_finite)
    (Card.zero_le_percent sound.mean_finite sound.mean_nonnegative)
  refine ⟨((judge_eq_ok_iff_comesTo clean m).mp accepted).1, ?_, ?_, ?_⟩
  · exact mean.congr (Card.percent_eq_negativeZero_iff sound.mean_finite sound.mean_nonnegative)
  · exact Card.unsigned_unless_zero_in_column fit rfl sound.min_finite sound.min_nonnegative
  · exact Card.unsigned_unless_zero_in_column fit rfl sound.cutOff_finite cutOff

/-- Options that a document with a signed zero is merged into. -/
def signedCutOff : Options := { Options.builtin with lowEnergyNeutronCutOff := negativeZero }

def signedCutOffCards : String :=
  "APCORR                 0\n" ++
  "DELTAE              0.01\n" ++
  "DEMIN              0.025\n" ++
  "MSCAT                  2\n" ++
  "NEUTRFAST              1\n" ++
  "NEUTRLCUT            -0.\n" ++
  "NSTAT               1000      -1\n" ++
  "NUCRE                  1\n" ++
  "STRAGG                 2\n"

theorem exists_signedCutOff_payload :
    ∃ p, Payload.parse "\x7b\"lowEnergyNeutronCutOff\":-0.0\x7d" = .ok p ∧
      lenient.judge p .builtin = .ok signedCutOff :=
  Payload.exists_of_map_parse (by decide +kernel)

theorem signedCutOff_written : signedCutOff.cards.result = .ok signedCutOffCards := by
  refine Options.cards_result_eq_ok_iff.mpr ⟨?_, ?_⟩ <;> decide +kernel

/-- The document of a zero with a sign: two cards without a sign and one with it. -/
theorem signed_only_at_zero_cutOff :
    ∃ p, Payload.parse "\x7b\"lowEnergyNeutronCutOff\":-0.0\x7d" = .ok p ∧
      lenient.neutronCutoff = .always ∧ lenient.judge p .builtin = .ok signedCutOff ∧
      signedCutOff.cards.result = .ok signedCutOffCards ∧
      (∀ f : Field, p.ComesTo .builtin f (signedCutOff.get f)) ∧
      Column.UnsignedUnlessZero signedCutOff.meanEnergyLoss
        (Card.deltae.valueColumn signedCutOffCards) ∧
      Column.UnsignedUnlessZero signedCutOff.minEnergyLoss
        (Card.demin.valueColumn signedCutOffCards) ∧
      Column.UnsignedUnlessZero signedCutOff.lowEnergyNeutronCutOff
        (Card.neutrlcut.valueColumn signedCutOffCards) := by
  obtain ⟨p, parsed, accepted⟩ := exists_signedCutOff_payload
  have always : lenient.neutronCutoff = .always := rfl
  exact ⟨p, parsed, always, accepted, signedCutOff_written,
    signed_only_at_zero always accepted signedCutOff_written⟩

/-- A document that is accepted where the cut-off must never be negative, and a card of it with a
minus. -/
theorem minus_on_accepted_card :
    ∃ p, Payload.parse "\x7b\"lowEnergyNeutronCutOff\":-0.0\x7d" = .ok p ∧
      lenient.neutronCutoff = .always ∧ lenient.audit .builtin = [] ∧
      lenient.judge p .builtin = .ok signedCutOff ∧
      signedCutOff.cards.result = .ok signedCutOffCards ∧
      '-' ∈ Card.neutrlcut.valueColumn signedCutOffCards := by
  obtain ⟨p, parsed, accepted⟩ := exists_signedCutOff_payload
  have clean := ((judge_eq_ok_iff lenient p .builtin signedCutOff).mp accepted).1
  have column : Card.neutrlcut.valueColumn signedCutOffCards = "     -0.".toList := by
    decide +kernel
  exact ⟨p, parsed, rfl, clean, accepted, signedCutOff_written, by rw [column]; decide⟩

end Settings

end BeamRun
