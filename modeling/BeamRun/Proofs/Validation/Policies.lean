import Mathlib.Data.List.Nodup
import BeamRun.Proofs.Validation.Agreement
import BeamRun.Proofs.Validation.Diagnosis
import BeamRun.Proofs.Validation.Reach

/-! What each policy of the settings decides about a report, the other one left as it is: rejecting
unknown keys puts one block into it, and minding the cut-off conditionally takes at most one entry out. -/

namespace BeamRun

def Violation.OfCutOffSign (v : Violation) : Prop :=
  v.field = Field.lowEnergyNeutronCutOff.name ∧ v.kind = .domainViolation

/-- What is told of a payload that comes to `m` with these violations on the way. -/
def Violations.verdict (vs : Violations) (m : Options) : Except OptionsFailure Options :=
  if vs = [] then .ok m else .error (.rejected vs)

theorem Violations.verdict_eq_ok_iff {vs : Violations} {m o : Options} :
    vs.verdict m = .ok o ↔ vs = [] ∧ o = m := by
  unfold verdict
  by_cases none : vs = []
  · simp [none, eq_comm]
  · simp [none]

theorem Violations.verdict_ok_of_sublist {vs ws : Violations} {m o : Options} (fewer : ws.Sublist vs)
    (accepted : vs.verdict m = .ok o) : ws.verdict m = .ok o := by
  obtain ⟨rfl, rfl⟩ := verdict_eq_ok_iff.mp accepted
  exact verdict_eq_ok_iff.mpr ⟨List.sublist_nil.mp fewer, rfl⟩

/-- Whether a flag or a number of either sign is refused is a matter of type alone. -/
theorem Domain.untyped_of_refuses {d : Domain} (plain : d = .flag ∨ d = .number) {v : Json}
    {cause : Misfit} (refuses : d.Refuses v cause) :
    ¬ d.Typed v ∧ cause.kind = .typeMismatch := by
  rcases plain with rfl | rfl
  · cases refuses with
    | mistyped other => exact ⟨fun typed => other (Domain.kind_of_typed typed), rfl⟩
  · cases refuses with
    | mistyped other => exact ⟨fun typed => other (Domain.kind_of_typed typed), rfl⟩

namespace Payload

def known (p : Payload) : Payload :=
  ⟨p.entries.filter fun entry => (Field.ofKey? entry.1).isSome, p.ascending.filter _⟩

theorem get?_known (p : Payload) (key : String) :
    p.known.get? key = if (Field.ofKey? key).isSome then p.get? key else none :=
  Entries.get?_filter (fun key => (Field.ofKey? key).isSome) p.entries key

theorem lookup_known (p : Payload) (f : Field) : p.known.lookup f = p.lookup f := by
  apply lookup_congr
  intro key spelling
  rw [get?_known, (Field.spelled_iff key f).mpr spelling]
  rfl

theorem flag_fits_iff {p : Payload} :
    p.misfit? .fastNeutronTransportOn = none ↔ ¬ p.Mistyped .fastNeutronTransportOn := by
  constructor
  · intro fits mistyped
    rcases mistyped with ⟨key, v, found, untyped⟩
    have value : p.ComesTo .builtin .fastNeutronTransportOn _ := comesTo_effective fits
    obtain ⟨given, -⟩ := comesTo_iff_lookup.mp value
    exact untyped (Domain.typed_of_denotes (given key v found))
  · intro typed
    apply Option.eq_none_iff_forall_ne_some.mpr
    intro cause misfit
    obtain ⟨key, v, found, refuses⟩ := misfit_iff.mp misfit
    exact typed ⟨key, v, found, (Domain.untyped_of_refuses (.inl rfl) refuses).1⟩

end Payload

namespace Settings

variable {s : Settings} {p : Payload} {defaults : Options}

def withUnknownKeys (s : Settings) (policy : UnknownKeyPolicy) : Settings :=
  { s with unknownKeys := policy }

def withNeutronCutoff (s : Settings) (policy : NeutronCutoffPolicy) : Settings :=
  { s with neutronCutoff := policy }

def violationsOf (s : Settings) (p : Payload) (defaults : Options) (fields : List Field) :
    Violations :=
  (fields.filterMap (s.fieldDefect? p defaults)).map Defect.violation

def fieldViolations (s : Settings) (p : Payload) (defaults : Options) : Violations :=
  s.violationsOf p defaults Field.all

def unknownViolations (s : Settings) (p : Payload) : Violations :=
  (s.unknownDefects p).map Defect.violation

def pairViolations (s : Settings) (p : Payload) (defaults : Options) : Violations :=
  (s.lossDefects p defaults ++ s.countDefects p defaults).map Defect.violation

def report (s : Settings) (p : Payload) (defaults : Options) : Violations :=
  s.fieldViolations p defaults ++ s.unknownViolations p ++ s.pairViolations p defaults

theorem judge_eq_verdict (clean : s.audit defaults = []) :
    s.judge p defaults = (s.report p defaults).verdict (p.merged defaults) := by
  have parts : (s.defects p defaults).map Defect.violation = s.report p defaults := by
    simp [defects, report, fieldViolations, violationsOf, unknownViolations, pairViolations]
  rw [judge_eq, if_pos clean, ← parts, Violations.verdict]
  simp only [List.map_eq_nil_iff]

theorem kind_of_fieldViolations {v : Violation} (listed : v ∈ s.fieldViolations p defaults) :
    v.kind = .typeMismatch ∨ v.kind = .domainViolation := by
  obtain ⟨f, cause, -, rfl⟩ := (fieldErrors.exact v).mp listed
  cases cause with
  | mistyped found => exact .inl rfl
  | fractional x => exact .inl rfl
  | negative x => exact .inr rfl
  | belowOne n => exact .inr rfl
  | unlisted literal => exact .inr rfl

theorem mem_pairViolations {v : Violation} (listed : v ∈ s.pairViolations p defaults) :
    v.kind = .crossFieldViolation ∧ v.field ≠ Field.lowEnergyNeutronCutOff.name := by
  rw [pairViolations, List.map_append, List.mem_append] at listed
  rcases listed with loss | count
  · obtain ⟨-, -, x, y, -, -, -, rfl⟩ := (lossErrors.exact v).mp loss
    have other : Field.minEnergyLoss.name ≠ Field.lowEnergyNeutronCutOff.name := by decide
    exact ⟨rfl, other⟩
  · obtain ⟨-, -, x, y, -, -, -, rfl⟩ := (countErrors.exact v).mp count
    have other : Field.numberOfRecordedParticles.name ≠ Field.lowEnergyNeutronCutOff.name := by
      decide
    exact ⟨rfl, other⟩

section UnknownKeys

theorem audit_withUnknownKeys (policy : UnknownKeyPolicy) (clean : s.audit defaults = []) :
    (s.withUnknownKeys policy).audit defaults = [] := by
  have sound : defaults.Sound s.neutronCutoff := (audit_eq_nil_iff defaults).mp clean
  exact (audit_eq_nil_iff defaults).mpr sound

theorem alike_known : (s.withUnknownKeys .ignore).Alike p.known p defaults defaults where
  misfit_congr f := by rw [Payload.misfit?, Payload.misfit?, Payload.lookup_known]
  effective_eq f _ := by simp only [Payload.effective, Payload.lookup_known]
  unknown_eq := rfl

/-- Deleting unknown keys changes nothing where they are ignored. Where they are rejected the report is
the same but for one block: a violation for each unknown key, in ascending order, behind those of the
fields and before those of the pairs. -/
theorem unknown_keys_add_a_block (s : Settings) (p : Payload) (defaults : Options)
    (clean : s.audit defaults = []) :
    (s.withUnknownKeys .ignore).judge p.known defaults =
        (s.withUnknownKeys .ignore).judge p defaults ∧
      (∀ m, (s.withUnknownKeys .reject).judge p defaults = .ok m ↔
        (s.withUnknownKeys .ignore).judge p defaults = .ok m ∧
          ∀ key ∈ p.keys, ∃ f : Field, key ∈ f.spellings) ∧
      ∃ (m : Options) (fields unknown pairs : Violations),
        (s.withUnknownKeys .ignore).judge p defaults = (fields ++ pairs).verdict m ∧
          (s.withUnknownKeys .reject).judge p defaults = (fields ++ unknown ++ pairs).verdict m ∧
          (∀ v ∈ fields, v.kind = .typeMismatch ∨ v.kind = .domainViolation) ∧
          (s.withUnknownKeys .reject).UnknownKeyErrors p unknown ∧
          ∀ v ∈ pairs, v.kind = .crossFieldViolation := by
  have ignoring := audit_withUnknownKeys .ignore clean
  have rejecting := audit_withUnknownKeys .reject clean
  have lenient : (s.withUnknownKeys .ignore).judge p defaults =
      (s.fieldViolations p defaults ++ s.pairViolations p defaults).verdict (p.merged defaults) := by
    have none : (s.withUnknownKeys .ignore).unknownViolations p = [] := rfl
    rw [judge_eq_verdict ignoring, report, none, List.append_nil]
    rfl
  have strict : (s.withUnknownKeys .reject).judge p defaults =
      (s.fieldViolations p defaults ++ (s.withUnknownKeys .reject).unknownViolations p ++
        s.pairViolations p defaults).verdict (p.merged defaults) := judge_eq_verdict rejecting
  refine ⟨alike_known.judge_eq_judge ignoring ignoring, fun m => ?_, ?_⟩
  · have block : (s.withUnknownKeys .reject).unknownViolations p = [] ↔
        ∀ key ∈ p.keys, ∃ f : Field, key ∈ f.spellings := by
      rw [← Payload.unknownKeys_eq_nil_iff]
      simp [unknownViolations, unknownDefects, withUnknownKeys]
    rw [lenient, strict, Violations.verdict_eq_ok_iff, Violations.verdict_eq_ok_iff, ← block]
    simp only [List.append_eq_nil_iff]
    constructor
    · intro accepted
      rcases accepted with ⟨⟨⟨fields, unknown⟩, pairs⟩, same⟩
      exact ⟨⟨⟨fields, pairs⟩, same⟩, unknown⟩
    · intro accepted
      rcases accepted with ⟨⟨⟨fields, pairs⟩, same⟩, unknown⟩
      exact ⟨⟨⟨fields, unknown⟩, pairs⟩, same⟩
  · exact ⟨_, _, _, _, lenient, strict, fun v => kind_of_fieldViolations, unknownKeyErrors,
      fun v listed => (mem_pairViolations listed).1⟩

theorem unknown_keys_add_a_block_threeFaults :
    strict.audit .builtin = [] ∧
      lenient.judge threeFaults.known .builtin = lenient.judge threeFaults .builtin ∧
      strict.judge threeFaults .builtin = .error (.rejected threeViolations) ∧
      ∃ (m : Options) (fields unknown pairs : Violations),
        lenient.judge threeFaults .builtin = (fields ++ pairs).verdict m ∧
          strict.judge threeFaults .builtin = (fields ++ unknown ++ pairs).verdict m ∧
          strict.UnknownKeyErrors threeFaults unknown := by
  have clean : strict.audit .builtin = [] := by decide +kernel
  have rejected : strict.judge threeFaults .builtin = .error (.rejected threeViolations) := by rfl
  obtain ⟨known, -, m, fields, unknown, pairs, ignored, listed, -, errors, -⟩ :=
    unknown_keys_add_a_block strict threeFaults .builtin clean
  exact ⟨clean, known, rejected, m, fields, unknown, pairs, ignored, listed, errors⟩

end UnknownKeys

section CutOff

theorem audit_conditional (clean : (s.withNeutronCutoff .always).audit defaults = []) :
    (s.withNeutronCutoff .whenFastNeutronTransport).audit defaults = [] := by
  have sound : defaults.Sound .always := (audit_eq_nil_iff defaults).mp clean
  exact (audit_eq_nil_iff defaults).mpr sound.relax

theorem field_ne_of_unknownViolations {v : Violation} (listed : v ∈ s.unknownViolations p) :
    v.field ≠ Field.lowEnergyNeutronCutOff.name := by
  obtain ⟨-, key, -, unspelled, rfl⟩ := (unknownKeyErrors.exact v).mp listed
  intro (same : key = Field.lowEnergyNeutronCutOff.name)
  exact unspelled .lowEnergyNeutronCutOff (same ▸ Field.name_mem_spellings _)

theorem field_misfit_with_policy (s : Settings) (p : Payload) (defaults : Options)
    (policy : NeutronCutoffPolicy) {f : Field} (other : f ≠ .lowEnergyNeutronCutOff) :
    (s.withNeutronCutoff policy).fieldMisfit? p defaults f = s.fieldMisfit? p defaults f := by
  rw [fieldMisfit?, fieldMisfit?, if_neg other, if_neg other]

theorem violationsOf_append (first last : List Field) :
    s.violationsOf p defaults (first ++ last) =
      s.violationsOf p defaults first ++ s.violationsOf p defaults last := by
  rw [violationsOf, List.filterMap_append, List.map_append]
  rfl

theorem violations_with_policy (policy : NeutronCutoffPolicy) {fields : List Field}
    (without : .lowEnergyNeutronCutOff ∉ fields) :
    (s.withNeutronCutoff policy).violationsOf p defaults fields =
      s.violationsOf p defaults fields := by
  have same : ∀ f ∈ fields, (s.withNeutronCutoff policy).fieldDefect? p defaults f =
      s.fieldDefect? p defaults f := by
    intro f member
    have other : f ≠ .lowEnergyNeutronCutOff := fun same => without (same ▸ member)
    rw [fieldDefect?, fieldDefect?, field_misfit_with_policy s p defaults policy other]
  rw [violationsOf, List.filterMap_congr same, violationsOf]

theorem field_ne_of_violationsOf {fields : List Field} (without : .lowEnergyNeutronCutOff ∉ fields)
    {v : Violation} (listed : v ∈ s.violationsOf p defaults fields) :
    v.field ≠ Field.lowEnergyNeutronCutOff.name := by
  simp only [violationsOf, List.mem_map, List.mem_filterMap, fieldDefect?,
    Option.map_eq_some_iff] at listed
  rcases listed with ⟨_, ⟨f, member, cause, -, rfl⟩, rfl⟩
  intro (same : f.name = Field.lowEnergyNeutronCutOff.name)
  exact without (Field.name_injective same ▸ member)

theorem pair_violations_with_policy (s : Settings) (p : Payload) (defaults : Options)
    (policy : NeutronCutoffPolicy) :
    (s.withNeutronCutoff policy).pairViolations p defaults = s.pairViolations p defaults := by
  have pair {smaller greater : Field} (small : smaller ≠ .lowEnergyNeutronCutOff)
      (great : greater ≠ .lowEnergyNeutronCutOff)
      {reversed : smaller.Value → greater.Value → Prop} [∀ x y, Decidable (reversed x y)]
      {defect : smaller.Value → greater.Value → Defect} :
      (s.withNeutronCutoff policy).pairDefects p defaults smaller greater reversed defect =
        s.pairDefects p defaults smaller greater reversed defect := by
    rw [pairDefects, pairDefects, field_misfit_with_policy s p defaults policy small,
      field_misfit_with_policy s p defaults policy great]
  rw [pairViolations, pairViolations, lossDefects, lossDefects, countDefects, countDefects,
    pair (by decide) (by decide), pair (by decide) (by decide)]

def cutOffViolation (s : Settings) (p : Payload) (defaults : Options) : Violations :=
  ((s.fieldDefect? p defaults .lowEnergyNeutronCutOff).map Defect.violation).toList

theorem violations_of_cut_off :
    s.violationsOf p defaults [.lowEnergyNeutronCutOff] = s.cutOffViolation p defaults := by
  rw [violationsOf, cutOffViolation, List.filterMap_cons]
  cases s.fieldDefect? p defaults .lowEnergyNeutronCutOff <;> rfl

/-- The policy for the cut-off decides one place of the report; all around it stays as it is. -/
theorem report_with_policy (s : Settings) (p : Payload) (defaults : Options) :
    ∃ before after : Violations,
      (∀ policy, (s.withNeutronCutoff policy).report p defaults =
        before ++ (s.withNeutronCutoff policy).cutOffViolation p defaults ++ after) ∧
      ∀ v ∈ before ++ after, v.field ≠ Field.lowEnergyNeutronCutOff.name := by
  obtain ⟨first, last, catalogue⟩ := List.append_of_mem (Field.mem_all .lowEnergyNeutronCutOff)
  have distinct := Field.all_nodup
  rw [catalogue, List.nodup_middle, List.nodup_cons, List.mem_append, not_or] at distinct
  obtain ⟨⟨notFirst, notLast⟩, -⟩ := distinct
  refine ⟨s.violationsOf p defaults first,
    s.violationsOf p defaults last ++ s.unknownViolations p ++ s.pairViolations p defaults, ?_, ?_⟩
  · intro policy
    have unknown : (s.withNeutronCutoff policy).unknownViolations p = s.unknownViolations p := rfl
    rw [report, fieldViolations, catalogue, ← List.singleton_append, violationsOf_append,
      violationsOf_append, violations_with_policy policy notFirst,
      violations_with_policy policy notLast, violations_of_cut_off, unknown,
      pair_violations_with_policy]
    simp only [List.append_assoc]
  · intro v listed
    simp only [List.mem_append] at listed
    rcases listed with early | (late | unknown) | pair
    · exact field_ne_of_violationsOf notFirst early
    · exact field_ne_of_violationsOf notLast late
    · exact field_ne_of_unknownViolations unknown
    · exact (mem_pairViolations pair).2

/-- The sign of the cut-off is judged alike, unless fast transport can be read and comes to be off. -/
theorem cut_off_misfit_conditional (s : Settings) (p : Payload) (defaults : Options) :
    (s.withNeutronCutoff .whenFastNeutronTransport).cutOffMisfit? p defaults =
      if p.misfit? .fastNeutronTransportOn = none ∧
          p.effective defaults .fastNeutronTransportOn = false then none
      else (s.withNeutronCutoff .always).cutOffMisfit? p defaults := by
  have flag : (p.merged defaults).fastNeutronTransportOn =
      p.effective defaults .fastNeutronTransportOn := rfl
  simp only [cutOffMisfit?, judgesCutOff, withNeutronCutoff, NeutronCutoffPolicy.applies, flag]
  cases p.misfit? .fastNeutronTransportOn with
  | some cause => simp
  | none => cases p.effective defaults .fastNeutronTransportOn <;> simp

theorem length_cutOffViolation_le (s : Settings) (p : Payload) (defaults : Options) :
    (s.cutOffViolation p defaults).length ≤ 1 := by
  rw [cutOffViolation]
  cases s.fieldDefect? p defaults .lowEnergyNeutronCutOff with
  | none => exact Nat.zero_le 1
  | some defect => exact Nat.le_refl 1

/-- Both policies let a cut-off of a wrong type be refused, and fault a negative one at most. -/
theorem kind_of_cutOffViolation {v : Violation} (listed : v ∈ s.cutOffViolation p defaults) :
    v.field = Field.lowEnergyNeutronCutOff.name ∧
      if p.misfit? .lowEnergyNeutronCutOff = none then v.kind = .domainViolation
      else v.kind = .typeMismatch := by
  simp only [cutOffViolation, fieldDefect?, Option.mem_toList, Option.map_map,
    Option.map_eq_some_iff] at listed
  obtain ⟨cause, found, rfl⟩ := listed
  refine ⟨rfl, ?_⟩
  cases misfit : p.misfit? .lowEnergyNeutronCutOff with
  | some own =>
    rw [fieldMisfit?, misfit, Option.some_or] at found
    cases found
    obtain ⟨key, v, -, refuses⟩ := Payload.misfit_iff.mp misfit
    exact (Domain.untyped_of_refuses (.inr rfl) refuses).2
  | none =>
    rw [fieldMisfit?, misfit, Option.none_or, if_pos rfl] at found
    obtain ⟨-, -, rfl⟩ := cut_off_misfit_iff.mp found
    rfl

/-- What is told of the cut-off is the same under both policies, unless it can be read and fast
transport can be read and comes to be off: then nothing is told where the sign matters conditionally. -/
theorem cut_off_violation_conditional (s : Settings) (p : Payload) (defaults : Options) :
    (s.withNeutronCutoff .whenFastNeutronTransport).cutOffViolation p defaults =
      if p.misfit? .lowEnergyNeutronCutOff = none ∧ p.misfit? .fastNeutronTransportOn = none ∧
          p.effective defaults .fastNeutronTransportOn = false then []
      else (s.withNeutronCutoff .always).cutOffViolation p defaults := by
  simp only [cutOffViolation, fieldDefect?, fieldMisfit?, if_true]
  cases p.misfit? .lowEnergyNeutronCutOff with
  | some cause => simp
  | none =>
    simp only [Option.none_or, true_and, cut_off_misfit_conditional]
    split
    · rfl
    · rfl

/-- The two reports side by side: `spared` is what the conditional policy leaves out. -/
theorem report_conditional (s : Settings) (p : Payload) (defaults : Options) :
    ∃ before spared after : Violations,
      (s.withNeutronCutoff .always).report p defaults = before ++ spared ++ after ∧
        (s.withNeutronCutoff .whenFastNeutronTransport).report p defaults = before ++ after ∧
        spared.length ≤ 1 ∧ (∀ v ∈ spared, v.OfCutOffSign) ∧
        (spared ≠ [] ↔ (∃ v ∈ before ++ spared ++ after, v.OfCutOffSign) ∧
          ¬ p.Mistyped .fastNeutronTransportOn ∧
          p.effective defaults .fastNeutronTransportOn = false) ∧
        (spared ≠ [] → ∀ v ∈ before ++ after, ¬ v.OfCutOffSign) := by
  obtain ⟨before, after, report, elsewhere⟩ := report_with_policy s p defaults
  have always := report .always
  have relaxed := report .whenFastNeutronTransport
  rw [cut_off_violation_conditional] at relaxed
  have once := length_cutOffViolation_le (s.withNeutronCutoff .always) p defaults
  have kind (v : Violation) := @kind_of_cutOffViolation (s.withNeutronCutoff .always) p defaults v
  generalize (s.withNeutronCutoff .always).cutOffViolation p defaults = told at *
  have place {v : Violation} (listed : v ∈ before ++ told ++ after)
      (named : v.field = Field.lowEnergyNeutronCutOff.name) : v ∈ told := by
    simp only [List.mem_append] at listed
    rcases listed with (early | here) | late
    · exact absurd named (elsewhere v (List.mem_append_left _ early))
    · exact here
    · exact absurd named (elsewhere v (List.mem_append_right _ late))
  by_cases off : p.misfit? .lowEnergyNeutronCutOff = none ∧
      p.misfit? .fastNeutronTransportOn = none ∧
      p.effective defaults .fastNeutronTransportOn = false
  · rw [if_pos off, List.append_nil] at relaxed
    have sign (v : Violation) (listed : v ∈ told) : v.OfCutOffSign := by
      have kind := kind v listed
      rwa [if_pos off.1] at kind
    refine ⟨before, told, after, always, relaxed, once, sign, ?_, fun _ v listed signed =>
      elsewhere v listed signed.1⟩
    constructor
    · intro some
      obtain ⟨v, listed⟩ := List.exists_mem_of_ne_nil told some
      have there : v ∈ before ++ told ++ after := by simp [listed]
      exact ⟨⟨v, there, sign v listed⟩, Payload.flag_fits_iff.mp off.2.1, off.2.2⟩
    · intro reported
      rcases reported with ⟨⟨v, listed, signed⟩, -⟩
      exact List.ne_nil_of_mem (place listed signed.1)
  · rw [if_neg off] at relaxed
    refine ⟨before ++ told, [], after, ?_, relaxed, Nat.zero_le 1, nofun, ?_, nofun⟩
    · rw [List.append_nil, always]
    · rw [List.append_nil]
      refine ⟨fun some => absurd rfl some, fun reported => ?_⟩
      rcases reported with ⟨⟨v, listed, signed⟩, typed, flagOff⟩
      -- With the flag off the cut-off itself is mistyped, and what is told of it is no matter of sign.
      have misfit : p.misfit? .lowEnergyNeutronCutOff ≠ none := fun fits =>
        off ⟨fits, Payload.flag_fits_iff.mpr typed, flagOff⟩
      have kind := (kind v (place listed signed.1)).2
      rw [if_neg misfit, signed.2] at kind
      cases kind

/-- Where the sign of the cut-off matters with fast transport only, a report lists what it lists where
the sign always matters, less one entry at most: the one of that sign, which is left out exactly when
it is there and fast transport can be read and comes to be off. -/
theorem conditional_cutOff_relaxes (s : Settings) (p : Payload) (defaults : Options)
    (clean : (s.withNeutronCutoff .always).audit defaults = []) :
    (s.withNeutronCutoff .whenFastNeutronTransport).audit defaults = [] ∧
      (∃ (m : Options) (before spared after : Violations),
        (s.withNeutronCutoff .always).judge p defaults = (before ++ spared ++ after).verdict m ∧
          (s.withNeutronCutoff .whenFastNeutronTransport).judge p defaults =
            (before ++ after).verdict m ∧
          spared.length ≤ 1 ∧ (∀ v ∈ spared, v.OfCutOffSign) ∧
          (spared ≠ [] ↔ (∃ v ∈ before ++ spared ++ after, v.OfCutOffSign) ∧
            ¬ p.Mistyped .fastNeutronTransportOn ∧
            p.effective defaults .fastNeutronTransportOn = false) ∧
          (spared ≠ [] → ∀ v ∈ before ++ after, ¬ v.OfCutOffSign) ∧
          ∀ v, v.field = Field.lowEnergyNeutronCutOff.name → v.kind = .typeMismatch →
            (v ∈ before ++ spared ++ after ↔ v ∈ before ++ after)) ∧
      ∀ m, (s.withNeutronCutoff .always).judge p defaults = .ok m →
        (s.withNeutronCutoff .whenFastNeutronTransport).judge p defaults = .ok m := by
  have relaxedClean := audit_conditional clean
  obtain ⟨before, spared, after, always, relaxed, once, sign, exactly, alone⟩ :=
    report_conditional s p defaults
  have fewer : (before ++ after).Sublist (before ++ spared ++ after) :=
    (List.sublist_append_left before spared).append_right after
  rw [judge_eq_verdict clean, judge_eq_verdict relaxedClean, always, relaxed]
  refine ⟨relaxedClean, ⟨p.merged defaults, before, spared, after, rfl, rfl, once, sign, exactly, alone,
    ?_⟩, fun m => Violations.verdict_ok_of_sublist fewer⟩
  intro v _ mistyped
  refine ⟨fun listed => ?_, fun listed => fewer.subset listed⟩
  simp only [List.mem_append] at listed ⊢
  rcases listed with (early | here) | late
  · exact .inl early
  · have kind := (sign v here).2
    rw [mistyped] at kind
    cases kind
  · exact .inr late

theorem conditional_cutOff_relaxes_transportOff :
    strict.audit .builtin = [] ∧ guarded.judge .transportOff .builtin = .ok .transportOff ∧
      ∃ (m : Options) (before spared after : Violations),
        strict.judge .transportOff .builtin = (before ++ spared ++ after).verdict m ∧
          guarded.judge .transportOff .builtin = (before ++ after).verdict m ∧ spared ≠ [] := by
  have clean : strict.audit .builtin = [] := by decide +kernel
  have accepted : guarded.judge .transportOff .builtin = .ok .transportOff := by rfl
  have differ : strict.judge .transportOff .builtin ≠ guarded.judge .transportOff .builtin := by
    decide +kernel
  obtain ⟨-, ⟨m, before, spared, after, always, relaxed, -⟩, -⟩ :=
    conditional_cutOff_relaxes strict .transportOff .builtin clean
  refine ⟨clean, accepted, m, before, spared, after, always, relaxed, fun none => differ ?_⟩
  rw [none, List.append_nil] at always
  exact always.trans relaxed.symm

end CutOff

end Settings
end BeamRun
