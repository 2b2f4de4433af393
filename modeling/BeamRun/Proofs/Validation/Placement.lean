import Mathlib.Algebra.BigOperators.Group.Finset.Basic
import Mathlib.Algebra.Ring.Nat
import BeamRun.Proofs.Validation.Diagnosis

/-! Where violations are shown on a form: each beside its field and, if it is about a pair, beside the
other one too. No two of them meet at one place. -/

namespace BeamRun

def Violation.places (v : Violation) : List String := v.field :: v.related.toList

theorem Violation.concerns_iff (v : Violation) (key : String) :
    v.concerns key = true ↔ key ∈ v.places := by
  rw [concerns, Bool.or_eq_true, beq_iff_eq, beq_iff_eq, places, List.mem_cons, Option.mem_toList,
    eq_comm]

namespace Violations

variable {vs : Violations}

def places (vs : Violations) : List String := vs.flatMap Violation.places

theorem places_append (vs others : Violations) : (vs ++ others).places = vs.places ++ others.places :=
  List.flatMap_append

theorem mem_forField_iff {v : Violation} {key : String} :
    v ∈ vs.forField key ↔ v ∈ vs ∧ key ∈ v.places := by
  rw [forField, List.mem_filter, Violation.concerns_iff]

/-! Violations that do not meet: what is shown at a place can be counted by the places. -/

theorem length_forField (apart : vs.places.Nodup) (key : String) :
    (vs.forField key).length = vs.places.count key := by
  induction vs with
  | nil => rfl
  | cons v rest ih =>
    rw [places, List.flatMap_cons, List.nodup_append'] at apart
    have remaining := ih apart.2.1
    rw [forField] at remaining
    rw [forField, ← List.countP_eq_length_filter, List.countP_cons, List.countP_eq_length_filter,
      remaining, places, places, List.flatMap_cons, List.count_append, Nat.add_comm]
    congr 1
    -- The places of one violation are distinct, so that it counts once on both sides or on neither.
    by_cases shown : key ∈ v.places
    · rw [if_pos ((v.concerns_iff key).mpr shown), List.count_eq_one_of_mem apart.1 shown]
    · rw [if_neg (mt (v.concerns_iff key).mp shown), List.count_eq_zero_of_not_mem shown]

theorem length_forField_le (apart : vs.places.Nodup) (key : String) :
    (vs.forField key).length ≤ 1 := by
  rw [length_forField apart]
  exact List.nodup_iff_count_le_one.mp apart key

theorem forField_eq (apart : vs.places.Nodup) {v : Violation} (listed : v ∈ vs) {key : String}
    (shown : key ∈ v.places) : vs.forField key = [v] := by
  have here : v ∈ vs.forField key := mem_forField_iff.mpr ⟨listed, shown⟩
  have one : (vs.forField key).length = 1 :=
    Nat.le_antisymm (length_forField_le apart key) (List.length_pos_of_mem here)
  obtain ⟨w, only⟩ := List.length_eq_one_iff.mp one
  rw [only, List.mem_singleton] at here
  rw [only, here]

/-- Over names that miss none of the places, each place is counted once. -/
theorem sum_length_forField (apart : vs.places.Nodup) {names : List String} (distinct : names.Nodup)
    (covered : ∀ key ∈ vs.places, key ∈ names) :
    (names.map fun key => (vs.forField key).length).sum = vs.places.length := by
  simp only [length_forField apart]
  rw [← List.sum_toFinset _ distinct]
  have listed : ∀ key ∈ (vs.places : Multiset String), key ∈ names.toFinset :=
    fun key shown => List.mem_toFinset.mpr (covered key shown)
  simpa only [Multiset.coe_count, Multiset.coe_card] using Multiset.sum_count_eq_card listed

theorem length_places (related : ∀ v ∈ vs, v.related.isSome = (v.kind == .crossFieldViolation)) :
    vs.places.length = vs.length + vs.countOf .crossFieldViolation := by
  induction vs with
  | nil => rfl
  | cons v rest ih =>
    obtain ⟨first, others⟩ := List.forall_mem_cons.mp related
    have remaining := ih others
    rw [places, countOf] at remaining
    rw [places, List.flatMap_cons, List.length_append, remaining, countOf, List.countP_cons, ← first,
      List.length_cons, Violation.places, List.length_cons, Option.length_toList]
    omega

theorem places_of_unrelated (unrelated : ∀ v ∈ vs, v.related = none) :
    vs.places = vs.map (·.field) := by
  have alone : ∀ v ∈ vs, v.places = [v.field] := fun v listed => by
    rw [Violation.places, unrelated v listed, Option.toList_none]
  rw [places, List.flatMap_congr alone, ← List.map_eq_flatMap]

end Violations

namespace Defect

theorem places_lossesReversed (minimum mean : Binary64) :
    (lossesReversed minimum mean).violation.places =
      [Field.minEnergyLoss.name, Field.meanEnergyLoss.name] := rfl

theorem places_countsReversed (recorded generated : UInt64) :
    (countsReversed recorded generated).violation.places =
      [Field.numberOfRecordedParticles.name, Field.numberOfGeneratedParticles.name] := rfl

/-- Violations about a pair, and no others, name a second field. -/
theorem isSome_related (d : Defect) :
    d.violation.related.isSome = (d.violation.kind == .crossFieldViolation) := by
  cases d with
  | misfit f cause => cases cause <;> rfl
  | unknown key => rfl
  | lossesReversed minimum mean => rfl
  | countsReversed recorded generated => rfl

theorem pair_of_related {d : Defect} (related : d.violation.related.isSome = true) :
    ∃ f g : Field, f ≠ g ∧ d.violation.field = f.name ∧ d.violation.related = some g.name := by
  cases d with
  | misfit f cause => cases related
  | unknown key => cases related
  | lossesReversed minimum mean => exact ⟨.minEnergyLoss, .meanEnergyLoss, by decide, rfl, rfl⟩
  | countsReversed recorded generated =>
    exact ⟨.numberOfRecordedParticles, .numberOfGeneratedParticles, by decide, rfl, rfl⟩

end Defect

namespace Payload

def formNames (p : Payload) : List String := Field.all.map (·.name) ++ p.unknownKeys

theorem name_mem_formNames (p : Payload) (f : Field) : f.name ∈ p.formNames :=
  List.mem_append_left _ (List.mem_map_of_mem f.mem_all)

theorem name_not_mem_unknownKeys (p : Payload) (f : Field) : f.name ∉ p.unknownKeys := by
  intro unknown
  exact ((p.mem_unknownKeys_iff f.name).mp unknown).2 f f.name_mem_spellings

theorem formNames_nodup (p : Payload) : p.formNames.Nodup := by
  refine List.nodup_append'.mpr ⟨Field.names_nodup, p.keys_nodup.filter _, ?_⟩
  intro key named unknown
  obtain ⟨f, -, rfl⟩ := List.mem_map.mp named
  exact p.name_not_mem_unknownKeys f unknown

end Payload

namespace Settings

variable {s : Settings} {p : Payload} {defaults : Options} {vs : Violations}

/-! Each part of a report has places of its own: the faulty fields, the unknown keys, and two pairs of
fields without fault. -/

theorem FieldErrors.places_eq (errors : s.FieldErrors p defaults vs) :
    vs.places = vs.map (·.field) := by
  apply Violations.places_of_unrelated
  intro v listed
  obtain ⟨f, cause, -, rfl⟩ := (errors.exact v).mp listed
  rfl

theorem FieldErrors.apart (errors : s.FieldErrors p defaults vs) : vs.places.Nodup := by
  rw [errors.places_eq]
  exact Field.names_nodup.sublist errors.ordered

theorem FieldErrors.faulty (errors : s.FieldErrors p defaults vs) {key : String}
    (shown : key ∈ vs.places) : ∃ f cause, s.Faults p defaults f cause ∧ key = f.name := by
  rw [errors.places_eq, List.mem_map] at shown
  obtain ⟨v, listed, rfl⟩ := shown
  obtain ⟨f, cause, faults, rfl⟩ := (errors.exact v).mp listed
  exact ⟨f, cause, faults, rfl⟩

theorem UnknownKeyErrors.places_eq (errors : s.UnknownKeyErrors p vs) :
    vs.places = vs.map (·.field) := by
  apply Violations.places_of_unrelated
  intro v listed
  obtain ⟨-, key, -, -, rfl⟩ := (errors.exact v).mp listed
  rfl

theorem UnknownKeyErrors.apart (errors : s.UnknownKeyErrors p vs) : vs.places.Nodup := by
  rw [errors.places_eq]
  exact errors.ordered.imp String.ne_of_lt

theorem UnknownKeyErrors.unknown (errors : s.UnknownKeyErrors p vs) {key : String}
    (shown : key ∈ vs.places) : key ∈ p.unknownKeys := by
  rw [errors.places_eq, List.mem_map] at shown
  obtain ⟨v, listed, rfl⟩ := shown
  obtain ⟨-, key, present, unspelled, rfl⟩ := (errors.exact v).mp listed
  exact (p.mem_unknownKeys_iff key).mpr ⟨present, unspelled⟩

section Pair

variable {smaller greater : Field} {reversed : smaller.Value → greater.Value → Prop}
  {defect : smaller.Value → greater.Value → Defect}

theorem PairErrors.apart (errors : s.PairErrors p defaults smaller greater reversed defect vs)
    (placed : ∀ x y, (defect x y).violation.places = [smaller.name, greater.name])
    (differ : smaller ≠ greater) : vs.places.Nodup := by
  match vs, errors with
  | [], _ => exact List.nodup_nil
  | [v], errors =>
    obtain ⟨-, -, x, y, -, -, -, rfl⟩ := (errors.exact v).mp (List.mem_singleton_self v)
    rw [Violations.places, List.flatMap_singleton, placed]
    simpa using mt Field.name_injective differ
  | _ :: _ :: _, errors => exact absurd errors.once (by simp)

theorem PairErrors.faultless (errors : s.PairErrors p defaults smaller greater reversed defect vs)
    (placed : ∀ x y, (defect x y).violation.places = [smaller.name, greater.name])
    {key : String} (shown : key ∈ vs.places) :
    ∃ f ∈ [smaller, greater], (∀ cause, ¬ s.Faults p defaults f cause) ∧ key = f.name := by
  obtain ⟨v, listed, here⟩ := List.mem_flatMap.mp shown
  obtain ⟨small, great, x, y, -, -, -, rfl⟩ := (errors.exact v).mp listed
  rw [placed, List.mem_pair] at here
  rcases here with rfl | rfl
  · exact ⟨smaller, by simp, small, rfl⟩
  · exact ⟨greater, by simp, great, rfl⟩

/-- A pair is reported only where neither of its fields is, and no key is the name of a field. -/
theorem PairErrors.disjoint {fields unknown : Violations} (ofFields : s.FieldErrors p defaults fields)
    (ofKeys : s.UnknownKeyErrors p unknown)
    (ofPair : s.PairErrors p defaults smaller greater reversed defect vs)
    (placed : ∀ x y, (defect x y).violation.places = [smaller.name, greater.name]) :
    (fields.places ++ unknown.places).Disjoint vs.places := by
  intro key before shown
  obtain ⟨g, -, faultless, rfl⟩ := ofPair.faultless placed shown
  rcases List.mem_append.mp before with faulty | unknown
  · obtain ⟨f, cause, faults, same⟩ := ofFields.faulty faulty
    exact faultless cause (Field.name_injective same ▸ faults)
  · exact p.name_not_mem_unknownKeys g (ofKeys.unknown unknown)

end Pair

theorem apart_of_defects :
    (Violations.places ((s.defects p defaults).map Defect.violation)).Nodup := by
  obtain ⟨fields, unknown, losses, counts, report, ofFields, ofKeys, ofLosses, ofCounts⟩ :=
    (defects_violations_iff _).mp rfl
  -- The two pairs have no field in common.
  have lossesCounts : losses.places.Disjoint counts.places := by
    intro key lost counted
    obtain ⟨f, first, -, rfl⟩ := PairErrors.faultless ofLosses Defect.places_lossesReversed lost
    obtain ⟨g, second, -, same⟩ := PairErrors.faultless ofCounts Defect.places_countsReversed counted
    rw [← Field.name_injective same] at second
    revert first second
    cases f <;> decide
  rw [report, Violations.places_append, Violations.places_append, Violations.places_append,
    List.nodup_append', List.nodup_append', List.nodup_append']
  refine ⟨⟨⟨ofFields.apart, ofKeys.apart, ?_⟩, ?_, ?_⟩, ?_,
    List.disjoint_append_left.mpr ⟨?_, lossesCounts⟩⟩
  · intro key faulty unknown
    obtain ⟨f, -, -, rfl⟩ := ofFields.faulty faulty
    exact p.name_not_mem_unknownKeys f (ofKeys.unknown unknown)
  · exact PairErrors.apart ofLosses Defect.places_lossesReversed (by decide)
  · exact PairErrors.disjoint ofFields ofKeys ofLosses Defect.places_lossesReversed
  · exact PairErrors.apart ofCounts Defect.places_countsReversed (by decide)
  · exact PairErrors.disjoint ofFields ofKeys ofCounts Defect.places_countsReversed

theorem covered_of_defects :
    ∀ key ∈ Violations.places ((s.defects p defaults).map Defect.violation), key ∈ p.formNames := by
  intro key shown
  obtain ⟨v, listed, here⟩ := List.mem_flatMap.mp shown
  obtain ⟨d, defect, rfl⟩ := List.mem_map.mp listed
  cases d with
  | misfit f cause =>
    obtain rfl := List.mem_singleton.mp here
    exact p.name_mem_formNames f
  | unknown other =>
    obtain rfl := List.mem_singleton.mp here
    exact List.mem_append_right _ (unknown_mem_defects_iff.mp defect).2
  | lossesReversed minimum mean =>
    rw [Defect.places_lossesReversed, List.mem_pair] at here
    rcases here with rfl | rfl <;> exact p.name_mem_formNames _
  | countsReversed recorded generated =>
    rw [Defect.places_countsReversed, List.mem_pair] at here
    rcases here with rfl | rfl <;> exact p.name_mem_formNames _

/-- At most one violation is shown at a place, and every violation is shown: one about a pair beside
two fields of the catalogue, any other beside what it names alone. Over the catalogue and the unknown
keys, the violations shown are those of the report and those about pairs once more. -/
theorem every_violation_placed (s : Settings) (p : Payload) (defaults : Options) (vs : Violations)
    (rejected : s.judge p defaults = .error (.rejected vs)) :
    (∀ key, (vs.forField key).length ≤ 1) ∧
    (∀ v ∈ vs, vs.forField v.field = [v]) ∧
    (∀ v ∈ vs, v.kind = .crossFieldViolation →
      ∃ f g : Field, f ≠ g ∧ v.field = f.name ∧ v.related = some g.name ∧
        ∀ key, v ∈ vs.forField key ↔ key = f.name ∨ key = g.name) ∧
    (∀ v ∈ vs, v.kind ≠ .crossFieldViolation → ∀ key, v ∈ vs.forField key ↔ key = v.field) ∧
    (p.formNames.map fun key => (vs.forField key).length).sum =
      vs.length + vs.countOf .crossFieldViolation := by
  obtain ⟨-, -, rfl⟩ := (judge_eq_rejected_iff s p defaults vs).mp rejected
  refine ⟨Violations.length_forField_le apart_of_defects, ?_, ?_, ?_, ?_⟩
  · exact fun v listed => Violations.forField_eq apart_of_defects listed List.mem_cons_self
  · intro v listed cross
    obtain ⟨d, -, rfl⟩ := List.mem_map.mp listed
    have related : d.violation.related.isSome = true := by rw [d.isSome_related, cross]; rfl
    obtain ⟨f, g, differ, field, other⟩ := Defect.pair_of_related related
    refine ⟨f, g, differ, field, other, fun key => ?_⟩
    rw [Violations.mem_forField_iff, Violation.places, field, other, Option.toList_some, List.mem_pair]
    exact and_iff_right listed
  · intro v listed single key
    obtain ⟨d, -, rfl⟩ := List.mem_map.mp listed
    have unrelated : d.violation.related = none := by
      rw [← Option.not_isSome_iff_eq_none, d.isSome_related, beq_iff_eq]
      exact single
    rw [Violations.mem_forField_iff, Violation.places, unrelated, Option.toList_none,
      List.mem_singleton]
    exact and_iff_right listed
  · rw [Violations.sum_length_forField apart_of_defects p.formNames_nodup covered_of_defects,
      Violations.length_places]
    intro v listed
    obtain ⟨d, -, rfl⟩ := List.mem_map.mp listed
    exact d.isSome_related

theorem every_violation_placed_threeFaults :
    strict.judge threeFaults .builtin = .error (.rejected threeViolations) ∧
      (threeFaults.formNames.map fun key =>
        (threeViolations.forField key).length).sum = 4 := by
  have rejected : strict.judge threeFaults .builtin = .error (.rejected threeViolations) := by rfl
  obtain ⟨-, -, -, -, sum⟩ := every_violation_placed strict threeFaults .builtin _ rejected
  exact ⟨rejected, sum⟩

end Settings
end BeamRun
