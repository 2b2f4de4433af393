import BeamRun.Proofs.Card

/-! Which options have cards, and which number is told where they have none. Only four numbers vary in
width: three energies and the number of particles; of those that do not fit their fields the first one
in file order is told, in all its digits. -/

namespace BeamRun

namespace Column

open Decimal

/-- A count has a field up to eight digits, and all of them stand in it. -/
theorem whole_natCast (n : Nat) :
    whole n = if n ≤ 99999999 then some (rightAligned (digits n)) else none := by
  have width : (rightAligned (digits n)).length = max fieldWidth (digits n).length :=
    List.length_leftpad
  have narrow := length_digits_le_iff (n := n) (k := fieldWidth) (by decide)
  have power : 10 ^ fieldWidth = 100000000 := rfl
  rw [whole, ofInt_natCast]
  by_cases fits : n ≤ 99999999
  · have exact : (rightAligned (digits n)).length = fieldWidth := by omega
    rw [if_pos fits]
    exact if_pos exact
  · have longer : (rightAligned (digits n)).length ≠ fieldWidth := by omega
    rw [if_neg fits]
    exact if_neg longer

end Column

namespace Card

variable {o : Options} {c : Card}

theorem too_wide_of_real {x : Binary64} (single : c.entries o = [.real x]) :
    c.tooWide? o = if Column.real x = none then some ⟨c, Decimal.plainText x⟩ else none := by
  have column : (Entry.real x).column = Column.real x := rfl
  rw [tooWide?, single]
  cases fits : Column.real x with
  | none =>
    rw [if_pos rfl, List.find?_cons_of_pos (by rw [column, fits, Option.isNone_none])]
    rfl
  | some field =>
    rw [if_neg (Option.some_ne_none field),
      List.find?_cons_of_neg (by rw [column, fits, Option.isNone_some]; exact Bool.false_ne_true)]
    rfl

theorem none_too_wide_of_field {x : Binary64} (single : c.entries o = [.real x])
    (fits : (Column.real x).isSome = true) : c.tooWide? o = none := by
  rw [too_wide_of_real single, if_neg (Option.isSome_iff_ne_none.mp fits)]

/-- Counts that are no signed numbers of 64 bits have more digits than a field anyway. -/
theorem Entry.column_count (n : UInt64) :
    (Entry.count n).column =
      if n.toNat ≤ 99999999 then some (Column.rightAligned (Decimal.digits n.toNat)) else none := by
  rw [column, signed?]
  by_cases signed : n.toNat < 0x8000000000000000
  · rw [if_pos signed, Option.bind_some, Column.whole_natCast]
  · have wide : ¬ n.toNat ≤ 99999999 := by omega
    rw [if_neg signed, if_neg wide, Option.bind_none]

theorem too_wide_nstat :
    nstat.tooWide? o =
      if o.numberOfGeneratedParticles.toNat ≤ 99999999 then none
      else some ⟨nstat, countText o.numberOfGeneratedParticles⟩ := by
  have column := Entry.column_count o.numberOfGeneratedParticles
  have checkpoint : noCheckpoint.column ≠ none := by decide
  by_cases fits : o.numberOfGeneratedParticles.toNat ≤ 99999999
  · rw [if_pos fits] at column ⊢
    apply none_too_wide_iff.mpr
    intro e listed
    simp only [entries, List.mem_cons, List.not_mem_nil, or_false] at listed
    rcases listed with rfl | rfl
    · rw [column]
      exact Option.some_ne_none _
    · exact checkpoint
  · rw [if_neg fits] at column ⊢
    rw [tooWide?, entries, List.find?_cons_of_pos (by rw [column, Option.isNone_none]),
      Option.map_some, Entry.text]

theorem none_too_wide_of_code (code : c ∈ [apcorr, mscat, neutrfast, nucre, stragg]) :
    c.tooWide? o = none := by
  have switches (on : Bool) : (switch on).column ≠ none := by cases on <;> decide
  have scatterings (s : Scattering) : (scattering s).column ≠ none := by cases s <;> decide
  have stragglings (s : Straggling) : (straggling s).column ≠ none := by cases s <;> decide
  apply none_too_wide_iff.mpr
  intro e listed
  cases c with
  | apcorr => exact List.mem_singleton.mp listed ▸ switches _
  | mscat => exact List.mem_singleton.mp listed ▸ scatterings _
  | neutrfast => exact List.mem_singleton.mp listed ▸ switches _
  | nucre => exact List.mem_singleton.mp listed ▸ switches _
  | stragg => exact List.mem_singleton.mp listed ▸ stragglings _
  | _ => simp at code

end Card

namespace Options

open Decimal

/-- The numbers that vary in width have fields. -/
structure Fits (o : Options) : Prop where
  meanEnergyLoss : (Column.real (o.meanEnergyLoss.div (.ofNat 100))).isSome = true
  minEnergyLoss : (Column.real o.minEnergyLoss).isSome = true
  lowEnergyNeutronCutOff : (Column.real o.lowEnergyNeutronCutOff).isSome = true
  numberOfGeneratedParticles : o.numberOfGeneratedParticles.toNat ≤ 99999999

/-- The first number in file order that has no field, by the card and in words. -/
inductive FirstTooWide (o : Options) : TooWide → Prop
  | deltae (wide : Column.real (o.meanEnergyLoss.div (.ofNat 100)) = none) :
      FirstTooWide o ⟨.deltae, plainText (o.meanEnergyLoss.div (.ofNat 100))⟩
  | demin (mean : (Column.real (o.meanEnergyLoss.div (.ofNat 100))).isSome = true)
      (wide : Column.real o.minEnergyLoss = none) :
      FirstTooWide o ⟨.demin, plainText o.minEnergyLoss⟩
  | neutrlcut (mean : (Column.real (o.meanEnergyLoss.div (.ofNat 100))).isSome = true)
      (minimum : (Column.real o.minEnergyLoss).isSome = true)
      (wide : Column.real o.lowEnergyNeutronCutOff = none) :
      FirstTooWide o ⟨.neutrlcut, plainText o.lowEnergyNeutronCutOff⟩
  | nstat (mean : (Column.real (o.meanEnergyLoss.div (.ofNat 100))).isSome = true)
      (minimum : (Column.real o.minEnergyLoss).isSome = true)
      (cutOff : (Column.real o.lowEnergyNeutronCutOff).isSome = true)
      (wide : 99999999 < o.numberOfGeneratedParticles.toNat) :
      FirstTooWide o ⟨.nstat, String.ofList (digits o.numberOfGeneratedParticles.toNat)⟩

variable {o : Options}

theorem too_wide_among_four (o : Options) :
    o.tooWide? =
      [Card.deltae, Card.demin, Card.neutrlcut, Card.nstat].findSome? (Card.tooWide? o) := by
  have code {c : Card} (code : c ∈ [Card.apcorr, .mscat, .neutrfast, .nucre, .stragg]) :
      c.tooWide? o = none := Card.none_too_wide_of_code code
  simp only [tooWide?, Card.all, List.findSome?_cons, code (c := .apcorr) (by decide),
    code (c := .mscat) (by decide), code (c := .neutrfast) (by decide),
    code (c := .nucre) (by decide), code (c := .stragg) (by decide)]

theorem fits_or_firstTooWide (o : Options) : o.Fits ∨ ∃ t, o.FirstTooWide t := by
  cases mean : Column.real (o.meanEnergyLoss.div (.ofNat 100)) with
  | none => exact .inr ⟨_, .deltae mean⟩
  | some _ =>
    have mean := Option.isSome_of_eq_some mean
    cases minimum : Column.real o.minEnergyLoss with
    | none => exact .inr ⟨_, .demin mean minimum⟩
    | some _ =>
      have minimum := Option.isSome_of_eq_some minimum
      cases cutOff : Column.real o.lowEnergyNeutronCutOff with
      | none => exact .inr ⟨_, .neutrlcut mean minimum cutOff⟩
      | some _ =>
        have cutOff := Option.isSome_of_eq_some cutOff
        rcases Nat.lt_or_ge 99999999 o.numberOfGeneratedParticles.toNat with wide | narrow
        · exact .inr ⟨_, .nstat mean minimum cutOff wide⟩
        · exact .inl ⟨mean, minimum, cutOff, narrow⟩

theorem Fits.too_wide_eq (fits : o.Fits) : o.tooWide? = none := by
  simp only [too_wide_among_four, List.findSome?_cons, List.findSome?_nil,
    Card.none_too_wide_of_field (c := .deltae) rfl fits.meanEnergyLoss,
    Card.none_too_wide_of_field (c := .demin) rfl fits.minEnergyLoss,
    Card.none_too_wide_of_field (c := .neutrlcut) rfl fits.lowEnergyNeutronCutOff, Card.too_wide_nstat,
    if_pos fits.numberOfGeneratedParticles]

theorem FirstTooWide.too_wide_eq {t : TooWide} (first : o.FirstTooWide t) : o.tooWide? = some t := by
  rw [too_wide_among_four, List.findSome?_cons]
  cases first with
  | deltae wide =>
    rw [Card.too_wide_of_real (c := .deltae) (x := o.meanEnergyLoss.div (.ofNat 100)) rfl, if_pos wide]
  | demin mean wide =>
    rw [Card.none_too_wide_of_field (c := .deltae) rfl mean, List.findSome?_cons,
      Card.too_wide_of_real (c := .demin) rfl, if_pos wide]
  | neutrlcut mean minimum wide =>
    rw [Card.none_too_wide_of_field (c := .deltae) rfl mean, List.findSome?_cons,
      Card.none_too_wide_of_field (c := .demin) rfl minimum, List.findSome?_cons,
      Card.too_wide_of_real (c := .neutrlcut) rfl, if_pos wide]
  | nstat mean minimum cutOff wide =>
    rw [Card.none_too_wide_of_field (c := .deltae) rfl mean, List.findSome?_cons,
      Card.none_too_wide_of_field (c := .demin) rfl minimum, List.findSome?_cons,
      Card.none_too_wide_of_field (c := .neutrlcut) rfl cutOff, List.findSome?_cons, Card.too_wide_nstat,
      if_neg (Nat.not_le.mpr wide), countText]

theorem none_too_wide_iff_fits : o.tooWide? = none ↔ o.Fits := by
  constructor
  · intro fit
    rcases o.fits_or_firstTooWide with fits | ⟨t, first⟩
    · exact fits
    · rw [first.too_wide_eq] at fit
      cases fit
  · exact Fits.too_wide_eq

theorem too_wide_iff_first {t : TooWide} : o.tooWide? = some t ↔ o.FirstTooWide t := by
  constructor
  · intro wide
    rcases o.fits_or_firstTooWide with fits | ⟨u, first⟩
    · rw [fits.too_wide_eq] at wide
      cases wide
    · rw [first.too_wide_eq] at wide
      cases wide
      exact first
  · exact FirstTooWide.too_wide_eq

theorem renderAll_eq_ok_iff {cards : List (Card × List Char)} :
    Card.renderAll o = .ok cards ↔
      o.Fits ∧ cards = Card.all.map fun c => (c, (c.fields o).flatten) := by
  rw [Card.renderAll, Card.mapM_render, ← tooWide?, ← none_too_wide_iff_fits]
  cases o.tooWide? with
  | none => simp [eq_comm]
  | some t => simp

theorem renderAll_eq_error_iff {t : TooWide} : Card.renderAll o = .error t ↔ o.FirstTooWide t := by
  rw [Card.renderAll, Card.mapM_render, ← tooWide?, ← too_wide_iff_first]
  cases o.tooWide? <;> simp

theorem cards_result_eq_error_iff {t : TooWide} :
    o.cards.result = .error t ↔ o.FirstTooWide t := by
  rw [cards_result, ← too_wide_iff_first]
  cases o.tooWide? <;> simp

/-- A count that fits stands in its field with all its digits; behind it there is no checkpoint. -/
theorem flatten_fields_nstat (fits : o.numberOfGeneratedParticles.toNat ≤ 99999999) :
    (Card.nstat.fields o).flatten =
      Column.rightAligned (digits o.numberOfGeneratedParticles.toNat) ++ "      -1".toList := by
  have count : (Card.Entry.count o.numberOfGeneratedParticles).column =
      some (Column.rightAligned (digits o.numberOfGeneratedParticles.toNat)) := by
    rw [Card.Entry.column_count, if_pos fits]
  have checkpoint : Card.noCheckpoint.column = some "      -1".toList := by decide
  rw [Card.fields, Card.entries, List.map_cons, List.map_singleton, count, checkpoint,
    Option.getD_some, Option.getD_some, List.flatten_cons, List.flatten_singleton]

/-- Cards are there exactly when the three energies have fields and the count has at most eight digits;
otherwise the list and the text fail alike, with the first number in file order that has no field. A
count that is there stands whole in its columns. -/
theorem cards_refused_exactly (o : Options) :
    ((∃ cards, Card.renderAll o = .ok cards) ↔ o.Fits) ∧
    ((∃ text, o.cards.result = .ok text) ↔ o.Fits) ∧
    (∀ t, Card.renderAll o = .error t ↔ o.FirstTooWide t) ∧
    (∀ t, o.cards.result = .error t ↔ o.FirstTooWide t) ∧
    (∀ cards, Card.renderAll o = .ok cards →
      o.cards.result = .ok (Card.fileText cards) ∧ cards.map (·.1) = Card.all ∧
      ∀ content, (Card.nstat, content) ∈ cards → content =
        Column.rightAligned (digits o.numberOfGeneratedParticles.toNat) ++ "      -1".toList) ∧
    ∀ text, o.cards.result = .ok text →
      Card.lineOf text .nstat = "NSTAT           ".toList ++
        (Column.rightAligned (digits o.numberOfGeneratedParticles.toNat) ++ "      -1".toList) ∧
      Card.number? text .nstat 0 = some o.numberOfGeneratedParticles.toNat ∧
      Card.number? text .nstat 1 = some (-1) := by
  refine ⟨?_, ?_, fun t => renderAll_eq_error_iff, fun t => cards_result_eq_error_iff, ?_, ?_⟩
  · simp only [renderAll_eq_ok_iff, exists_and_left, exists_eq, and_true]
  · simp only [cards_result_eq_ok_iff, none_too_wide_iff_fits, exists_and_left, exists_eq, and_true]
  · intro cards done
    obtain ⟨fits, rfl⟩ := renderAll_eq_ok_iff.mp done
    refine ⟨cards_result_eq_ok_iff.mpr ⟨fits.too_wide_eq, rfl⟩, ?_, ?_⟩
    · rw [List.map_map]
      exact List.map_id _
    · intro content member
      obtain ⟨c, -, same⟩ := List.mem_map.mp member
      cases same
      exact flatten_fields_nstat fits.numberOfGeneratedParticles
  · intro text done
    obtain ⟨fit, rfl⟩ := cards_result_eq_ok_iff.mp done
    have fits := none_too_wide_iff_fits.mp fit
    have count : (Card.Entry.count o.numberOfGeneratedParticles).Encodes some
        (o.numberOfGeneratedParticles.toNat : Int) :=
      fun field column => ⟨_, Card.Entry.whole_of_count column, rfl⟩
    refine ⟨?_, Card.number_written fit count rfl,
      Card.number_written fit (Card.Entry.encodes_whole rfl) rfl⟩
    rw [Card.line_of_written fit, Card.written,
      flatten_fields_nstat fits.numberOfGeneratedParticles]
    rfl

/-- A mean loss that its card has in percent. -/
def withMeanEnergyLoss (n : Nat) : Options := { builtin with meanEnergyLoss := .ofNat n }

/-- A mean loss of nine digits has a field for its hundredth part, and one of ten digits has none. Of three
numbers without a field the first in the file is told, and a count beyond the signed numbers of 64 bits in
all its digits. -/
theorem cards_refused_exactly_overlong :
    let several : Options :=
      { builtin with
        minEnergyLoss := .ofNat 20000000
        lowEnergyNeutronCutOff := .ofRatio true 15000000 10
        numberOfGeneratedParticles := 100000000 }
    let many : Options := { builtin with numberOfGeneratedParticles := 9223372036854775808 }
    (withMeanEnergyLoss 500000000).Fits ∧
      Card.lineOf (withMeanEnergyLoss 500000000).cardText .deltae = "DELTAE          5000000.".toList ∧
      (∃ text, (withMeanEnergyLoss 500000000).cards.result = .ok text) ∧
      Card.renderAll (withMeanEnergyLoss 1234567850) = .error ⟨.deltae, "12345678.5"⟩ ∧
      (withMeanEnergyLoss 1234567850).cards.result = .error ⟨.deltae, "12345678.5"⟩ ∧
      Card.renderAll several = .error ⟨.demin, "20000000"⟩ ∧
      several.cards.result = .error ⟨.demin, "20000000"⟩ ∧
      Card.renderAll many = .error ⟨.nstat, "9223372036854775808"⟩ ∧
      many.cards.result = .error ⟨.nstat, "9223372036854775808"⟩ := by
  intro several many
  have nine : (withMeanEnergyLoss 500000000).Fits :=
    ⟨by decide +kernel, by decide +kernel, by decide +kernel, by decide⟩
  have ten : (withMeanEnergyLoss 1234567850).FirstTooWide ⟨.deltae, "12345678.5"⟩ := by
    have text : plainText ((withMeanEnergyLoss 1234567850).meanEnergyLoss.div (.ofNat 100)) =
        "12345678.5" := by decide +kernel
    exact text ▸ .deltae (by decide +kernel)
  have first : several.FirstTooWide ⟨.demin, "20000000"⟩ := by
    have text : plainText several.minEnergyLoss = "20000000" := by decide +kernel
    exact text ▸ .demin (by decide +kernel) (by decide +kernel)
  have last : many.FirstTooWide ⟨.nstat, "9223372036854775808"⟩ := by
    have text : String.ofList (digits many.numberOfGeneratedParticles.toNat) =
        "9223372036854775808" := by
      decide +kernel
    exact text ▸ .nstat (by decide +kernel) (by decide +kernel) (by decide +kernel) (by decide)
  obtain ⟨-, done, -⟩ := cards_refused_exactly (withMeanEnergyLoss 500000000)
  obtain ⟨-, -, listedMean, writtenMean, -⟩ := cards_refused_exactly (withMeanEnergyLoss 1234567850)
  obtain ⟨-, -, listed, written, -⟩ := cards_refused_exactly several
  obtain ⟨-, -, listedMany, writtenMany, -⟩ := cards_refused_exactly many
  exact ⟨nine, by decide +kernel, done.mpr nine, (listedMean _).mpr ten, (writtenMean _).mpr ten,
    (listed _).mpr first, (written _).mpr first, (listedMany _).mpr last, (writtenMany _).mpr last⟩

end Options
end BeamRun
