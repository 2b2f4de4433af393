import BeamRun.Proofs.Payload
import BeamRun.Proofs.Validation.Fields

/-! What a rejection lists: every violation once, in the order of the catalogue, then of the keys, then
of the pairs. -/

namespace BeamRun

namespace Domain

/-- A JSON value of the type of the domain, whether or not the domain admits it. -/
inductive Typed : Domain → Json → Prop
  | flag (b : Bool) : Typed .flag (.bool b)
  | amount (n : Number) : Typed .amount (.number n)
  | number (n : Number) : Typed .number (.number n)
  | count (n : WholeNumber) : Typed .count (.number (.whole n))
  | scattering (literal : String) : Typed .scattering (.string literal)
  | straggling (literal : String) : Typed .straggling (.string literal)

theorem kind_of_typed {d : Domain} {v : Json} (typed : Typed d v) : v.kind = d.kind := by
  cases typed <;> rfl

theorem typed_of_denotes {d : Domain} {v : Json} {x : d.Value} (h : Denotes d v x) : Typed d v := by
  cases h <;> constructor

end Domain

def Payload.Mistyped (p : Payload) (f : Field) : Prop :=
  ∃ key v, p.lookup f = some (key, v) ∧ ¬ f.domain.Typed v

namespace Settings

/-- Exactly one violation for each field at fault, in catalogue order. -/
structure FieldErrors (s : Settings) (p : Payload) (defaults : Options) (vs : Violations) : Prop where
  ordered : (vs.map (·.field)).Sublist (Field.all.map (·.name))
  exact (v : Violation) :
    v ∈ vs ↔ ∃ f cause, s.Faults p defaults f cause ∧ v = (Defect.misfit f cause).violation

/-- Exactly one violation for each key that spells no field, in ascending order, where these are
rejected. -/
structure UnknownKeyErrors (s : Settings) (p : Payload) (vs : Violations) : Prop where
  ordered : (vs.map (·.field)).Pairwise (· < ·)
  exact (v : Violation) :
    v ∈ vs ↔ s.unknownKeys = .reject ∧
      ∃ key ∈ p.keys, (∀ f : Field, key ∉ f.spellings) ∧ v = (Defect.unknown key).violation

/-- One violation for a pair of fields, exactly when both are without fault and their values are in
the wrong order. -/
structure PairErrors (s : Settings) (p : Payload) (defaults : Options) (smaller greater : Field)
    (reversed : smaller.Value → greater.Value → Prop)
    (defect : smaller.Value → greater.Value → Defect) (vs : Violations) : Prop where
  once : vs.length ≤ 1
  exact (v : Violation) :
    v ∈ vs ↔ (∀ cause, ¬ s.Faults p defaults smaller cause) ∧
      (∀ cause, ¬ s.Faults p defaults greater cause) ∧
      ∃ x y, p.ComesTo defaults smaller x ∧ p.ComesTo defaults greater y ∧ reversed x y ∧
        v = (defect x y).violation

def LossErrors (s : Settings) (p : Payload) (defaults : Options) : Violations → Prop :=
  s.PairErrors p defaults .minEnergyLoss .meanEnergyLoss (fun (minimum mean : Binary64) => mean < minimum)
    Defect.lossesReversed

def CountErrors (s : Settings) (p : Payload) (defaults : Options) : Violations → Prop :=
  s.PairErrors p defaults .numberOfRecordedParticles .numberOfGeneratedParticles
    (fun (recorded generated : UInt64) => generated < recorded) Defect.countsReversed

variable {s : Settings} {p : Payload} {defaults : Options}

theorem fields_of_defects (fields : List Field) :
    ((fields.filterMap (s.fieldDefect? p defaults)).map Defect.violation).map (·.field) =
      (fields.filter fun f => (s.fieldMisfit? p defaults f).isSome).map (·.name) := by
  induction fields with
  | nil => rfl
  | cons f rest ih =>
    cases judged : s.fieldMisfit? p defaults f <;>
      simpa [fieldDefect?, judged, Defect.violation] using ih

theorem fieldErrors :
    FieldErrors s p defaults
      ((Field.all.filterMap (s.fieldDefect? p defaults)).map Defect.violation) where
  ordered := by
    rw [fields_of_defects]
    exact List.filter_sublist.map _
  exact v := by
    simp only [List.mem_map, List.mem_filterMap, fieldDefect?, Option.map_eq_some_iff,
      field_misfit_iff]
    constructor
    · intro listed
      rcases listed with ⟨_, ⟨f, -, cause, faults, rfl⟩, rfl⟩
      exact ⟨f, cause, faults, rfl⟩
    · intro faulty
      rcases faulty with ⟨f, cause, faults, rfl⟩
      exact ⟨_, ⟨f, f.mem_all, cause, faults, rfl⟩, rfl⟩

theorem unknownKeyErrors : UnknownKeyErrors s p ((s.unknownDefects p).map Defect.violation) := by
  cases policy : s.unknownKeys with
  | ignore =>
    have none : s.unknownDefects p = [] := by simp [unknownDefects, policy]
    rw [none]
    exact ⟨.nil, by simp [policy]⟩
  | reject =>
    have listed : s.unknownDefects p = p.unknownKeys.map Defect.unknown := by
      simp [unknownDefects, policy]
    have ascending : p.unknownKeys.Pairwise (· < ·) := p.keys_ascending.filter _
    rw [listed]
    constructor
    · simpa [List.pairwise_map, Defect.violation] using ascending
    · intro v
      simp [policy, Payload.mem_unknownKeys_iff, and_assoc, eq_comm]

theorem pairErrors {smaller greater : Field} {reversed : smaller.Value → greater.Value → Prop}
    [∀ x y, Decidable (reversed x y)] {defect : smaller.Value → greater.Value → Defect} :
    PairErrors s p defaults smaller greater reversed defect
      ((s.pairDefects p defaults smaller greater reversed defect).map Defect.violation) := by
  have fits {f : Field} (faultless : s.fieldMisfit? p defaults f = none) :
      p.ComesTo defaults f ((p.merged defaults).get f) := by
    rw [Payload.get_merged]
    exact Payload.comesTo_effective (Option.or_eq_none_iff.mp faultless).1
  have value {f : Field} {x : f.Value} (comesTo : p.ComesTo defaults f x) :
      x = (p.merged defaults).get f := by
    rw [Payload.get_merged, (Payload.comesTo_iff.mp comesTo).2]
  unfold pairDefects
  split
  · next found =>
    rcases found with ⟨small, great, wrong⟩
    refine ⟨Nat.le_refl 1, fun v => ?_⟩
    constructor
    · intro member
      exact ⟨no_field_misfit_iff.mp small, no_field_misfit_iff.mp great, _, _,
        fits small, fits great, wrong, List.mem_singleton.mp member⟩
    · intro related
      rcases related with ⟨-, -, x, y, hx, hy, -, rfl⟩
      rw [value hx, value hy]
      exact List.mem_singleton_self _
  · next harmless =>
    refine ⟨Nat.zero_le 1, fun v => ?_⟩
    constructor
    · intro member
      cases member
    · intro related
      rcases related with ⟨small, great, x, y, hx, hy, wrong, rfl⟩
      rw [value hx, value hy] at wrong
      exact absurd ⟨no_field_misfit_iff.mpr small, no_field_misfit_iff.mpr great, wrong⟩
        harmless

theorem lossErrors : LossErrors s p defaults ((s.lossDefects p defaults).map Defect.violation) :=
  pairErrors

theorem countErrors : CountErrors s p defaults ((s.countDefects p defaults).map Defect.violation) :=
  pairErrors

section Uniqueness

variable {vs ws : Violations}

private def Precedes (a b : String) : Prop :=
  (Field.all.map (·.name)).idxOf a < (Field.all.map (·.name)).idxOf b

private theorem names_precede : (Field.all.map (·.name)).Pairwise Precedes := by
  unfold Precedes
  decide +kernel

theorem FieldErrors.unique (first : s.FieldErrors p defaults vs)
    (second : s.FieldErrors p defaults ws) : vs = ws := by
  have ordered {us : Violations} (h : s.FieldErrors p defaults us) :
      us.Pairwise fun v w => Precedes v.field w.field :=
    List.pairwise_map.mp (names_precede.sublist h.ordered)
  exact eq_of_ordered_of_mem_iff (fun _ _ => Nat.lt_asymm) (ordered first) (ordered second)
    fun v => (first.exact v).trans (second.exact v).symm

theorem UnknownKeyErrors.unique (first : s.UnknownKeyErrors p vs)
    (second : s.UnknownKeyErrors p ws) : vs = ws := by
  have ordered {us : Violations} (h : s.UnknownKeyErrors p us) :
      us.Pairwise fun v w => v.field < w.field :=
    List.pairwise_map.mp h.ordered
  exact eq_of_ordered_of_mem_iff (fun _ _ => String.lt_asymm) (ordered first) (ordered second)
    fun v => (first.exact v).trans (second.exact v).symm

theorem PairErrors.unique {smaller greater : Field}
    {reversed : smaller.Value → greater.Value → Prop}
    {defect : smaller.Value → greater.Value → Defect}
    (first : s.PairErrors p defaults smaller greater reversed defect vs)
    (second : s.PairErrors p defaults smaller greater reversed defect ws) : vs = ws := by
  have single {us : Violations} (once : us.length ≤ 1) : us.Pairwise fun _ _ => False := by
    match us, once with
    | [], _ => exact .nil
    | [v], _ => exact List.pairwise_singleton _ v
  exact eq_of_ordered_of_mem_iff (fun _ _ h => h.elim) (single first.once) (single second.once)
    fun v => (first.exact v).trans (second.exact v).symm

end Uniqueness

theorem defects_violations_iff (vs : Violations) :
    vs = (s.defects p defaults).map Defect.violation ↔
      ∃ fields unknown losses counts : Violations,
        vs = fields ++ unknown ++ losses ++ counts ∧ s.FieldErrors p defaults fields ∧
          s.UnknownKeyErrors p unknown ∧ s.LossErrors p defaults losses ∧
          s.CountErrors p defaults counts := by
  simp only [defects, List.map_append]
  constructor
  · intro same
    subst same
    exact ⟨_, _, _, _, rfl, fieldErrors, unknownKeyErrors, lossErrors, countErrors⟩
  · intro parts
    rcases parts with ⟨fields, unknown, losses, counts, rfl, hf, hu, hl, hc⟩
    rw [hf.unique fieldErrors, hu.unique unknownKeyErrors, PairErrors.unique hl lossErrors,
      PairErrors.unique hc countErrors]

def threeFaults : Payload :=
  TextMap.ofList
    [("meanEnergyLoss", .string "high"),
      ("numberOfRecordedParticles", .number (.whole ⟨2000, by decide⟩)), ("typo", .null)]

def threeViolations : Violations :=
  [⟨"meanEnergyLoss", .typeMismatch, "expected a number, found string", none⟩,
    ⟨"typo", .unknownField, "is not a recognized simulation option", none⟩,
    ⟨"numberOfRecordedParticles", .crossFieldViolation,
      "must not exceed numberOfGeneratedParticles (2000 > 1000)",
      some "numberOfGeneratedParticles"⟩]

end Settings
end BeamRun
