import BeamRun.Proofs.Payload
import BeamRun.Proofs.Validation.Fields

/-! Options that pass as defaults: an audit finds nothing exactly in sound options, and a verdict that
accepts gives sound options again. -/

namespace BeamRun

/-- The policy lets the cut-off be: it is not negative, or nothing depends on its sign. -/
def NeutronCutoffPolicy.Tolerates (policy : NeutronCutoffPolicy) (o : Options) : Prop :=
  policy = .whenFastNeutronTransport ∧ o.fastNeutronTransportOn = false ∨
    Binary64.zero ≤ o.lowEnergyNeutronCutOff

structure Options.Sound (policy : NeutronCutoffPolicy) (o : Options) : Prop where
  mean_finite : o.meanEnergyLoss.isFinite = true
  mean_nonnegative : Binary64.zero ≤ o.meanEnergyLoss
  min_finite : o.minEnergyLoss.isFinite = true
  min_nonnegative : Binary64.zero ≤ o.minEnergyLoss
  min_le_mean : o.minEnergyLoss ≤ o.meanEnergyLoss
  cutOff_finite : o.lowEnergyNeutronCutOff.isFinite = true
  cutOff_tolerated : policy.Tolerates o
  generated_positive : 1 ≤ o.numberOfGeneratedParticles
  recorded_positive : 1 ≤ o.numberOfRecordedParticles
  recorded_le_generated : o.numberOfRecordedParticles ≤ o.numberOfGeneratedParticles

theorem Options.sound_iff_proper {policy : NeutronCutoffPolicy} {o : Options} :
    o.Sound policy ↔
      (∀ f : Field, f.domain.Proper (o.get f)) ∧ policy.Tolerates o ∧
        o.minEnergyLoss ≤ o.meanEnergyLoss ∧
        o.numberOfRecordedParticles ≤ o.numberOfGeneratedParticles := by
  constructor
  · intro h
    refine ⟨fun f => ?_, h.cutOff_tolerated, h.min_le_mean, h.recorded_le_generated⟩
    cases f with
    | meanEnergyLoss => exact ⟨h.mean_finite, h.mean_nonnegative⟩
    | minEnergyLoss => exact ⟨h.min_finite, h.min_nonnegative⟩
    | lowEnergyNeutronCutOff => exact h.cutOff_finite
    | numberOfGeneratedParticles => exact h.generated_positive
    | numberOfRecordedParticles => exact h.recorded_positive
    | _ => trivial
  · intro h
    rcases h with ⟨proper, tolerated, losses, counts⟩
    have mean := proper .meanEnergyLoss
    have min := proper .minEnergyLoss
    exact
      { mean_finite := mean.1
        mean_nonnegative := mean.2
        min_finite := min.1
        min_nonnegative := min.2
        min_le_mean := losses
        cutOff_finite := proper .lowEnergyNeutronCutOff
        cutOff_tolerated := tolerated
        generated_positive := proper .numberOfGeneratedParticles
        recorded_positive := proper .numberOfRecordedParticles
        recorded_le_generated := counts }

theorem Options.losses_ordered_iff {o : Options} (proper : ∀ f : Field, f.domain.Proper (o.get f)) :
    ¬ o.meanEnergyLoss < o.minEnergyLoss ↔ o.minEnergyLoss ≤ o.meanEnergyLoss := by
  have mean := proper .meanEnergyLoss
  have min := proper .minEnergyLoss
  exact Binary64.not_lt_iff (Binary64.isNaN_of_isFinite min.1) (Binary64.isNaN_of_isFinite mean.1)

namespace Payload

variable {p : Payload} {defaults m : Options}

theorem forall_comesTo_iff :
    (∀ f, p.ComesTo defaults f (m.get f)) ↔ (∀ f, p.misfit? f = none) ∧ m = p.merged defaults := by
  constructor
  · intro comesTo
    refine ⟨fun f => (comesTo_iff.mp (comesTo f)).1, Options.ext_get fun f => ?_⟩
    rw [get_merged, (comesTo_iff.mp (comesTo f)).2]
  · intro h f
    rcases h with ⟨fits, rfl⟩
    rw [get_merged]
    exact comesTo_effective (fits f)

theorem proper_of_comesTo {f : Field} {x : f.Value} (h : p.ComesTo defaults f x)
    (proper : f.domain.Proper (defaults.get f)) : f.domain.Proper x := by
  cases h with
  | absent missing => exact proper
  | given found denotes => exact Domain.proper_of_denotes denotes

theorem comes_to_of_options_iff (o : Options) {f : Field} {x : f.Value} :
    (ofOptions o).ComesTo defaults f x ↔ x = o.get f ∧ f.domain.Proper x := by
  have found := lookup_of_options o f
  constructor
  · intro h
    rcases h with missing | ⟨other, denotes⟩
    · rw [found] at missing
      cases missing
    · rw [found] at other
      cases other
      exact ⟨Domain.eq_of_denotes_encode denotes, Domain.proper_of_denotes denotes⟩
  · intro h
    rcases h with ⟨rfl, proper⟩
    exact .given found (Domain.denotes_encode proper)

end Payload

namespace Settings

variable {s : Settings} {p : Payload} {defaults m : Options}

theorem no_cut_off_misfit_iff (fits : p.misfit? .fastNeutronTransportOn = none) :
    s.cutOffMisfit? p defaults = none ↔ s.neutronCutoff.Tolerates (p.merged defaults) := by
  cases policy : s.neutronCutoff with
  | always =>
    simp [cutOffMisfit?, judgesCutOff, NeutronCutoffPolicy.applies, NeutronCutoffPolicy.Tolerates,
      policy]
  | whenFastNeutronTransport =>
    cases flag : (p.merged defaults).fastNeutronTransportOn <;>
      simp [cutOffMisfit?, judgesCutOff, NeutronCutoffPolicy.applies, NeutronCutoffPolicy.Tolerates,
        policy, fits, flag]

theorem unknownDefects_eq_nil_iff :
    s.unknownDefects p = [] ↔ (s.unknownKeys = .reject → p.unknownKeys = []) := by
  cases policy : s.unknownKeys <;> simp [unknownDefects, policy]

theorem pairDefects_eq_nil {smaller greater : Field}
    {reversed : smaller.Value → greater.Value → Prop} [∀ x y, Decidable (reversed x y)]
    {defect : smaller.Value → greater.Value → Defect}
    (ordered : ¬ reversed ((p.merged defaults).get smaller) ((p.merged defaults).get greater)) :
    s.pairDefects p defaults smaller greater reversed defect = [] :=
  if_neg fun found => ordered found.2.2

theorem pairDefects_eq_nil_iff (none : ∀ f, s.fieldMisfit? p defaults f = none)
    {smaller greater : Field} {reversed : smaller.Value → greater.Value → Prop}
    [∀ x y, Decidable (reversed x y)] {defect : smaller.Value → greater.Value → Defect} :
    s.pairDefects p defaults smaller greater reversed defect = [] ↔
      ¬ reversed ((p.merged defaults).get smaller) ((p.merged defaults).get greater) := by
  constructor
  · intro silent reversed
    simp [pairDefects, none, reversed] at silent
  · exact pairDefects_eq_nil

theorem fieldMisfits_eq_none_iff :
    (∀ f, s.fieldMisfit? p defaults f = none) ↔
      (∀ f, p.misfit? f = none) ∧ s.neutronCutoff.Tolerates (p.merged defaults) := by
  constructor
  · intro none
    have fits (f : Field) : p.misfit? f = .none := (Option.or_eq_none_iff.mp (none f)).1
    have cutOff := (Option.or_eq_none_iff.mp (none .lowEnergyNeutronCutOff)).2
    rw [if_pos rfl] at cutOff
    exact ⟨fits, (no_cut_off_misfit_iff (fits _)).mp cutOff⟩
  · intro h f
    rcases h with ⟨fits, tolerated⟩
    rw [fieldMisfit?, fits, (no_cut_off_misfit_iff (fits _)).mpr tolerated]
    simp

/-- Nothing is reported exactly when every field comes to a value and the values pass together. -/
theorem defects_eq_nil_iff :
    s.defects p defaults = [] ∧ m = p.merged defaults ↔
      (∀ f, p.ComesTo defaults f (m.get f)) ∧ s.neutronCutoff.Tolerates m ∧
        ¬ m.meanEnergyLoss < m.minEnergyLoss ∧
        ¬ m.numberOfGeneratedParticles < m.numberOfRecordedParticles ∧
        (s.unknownKeys = .reject → p.unknownKeys = []) := by
  have fields : Field.all.filterMap (s.fieldDefect? p defaults) = [] ↔
      ∀ f, s.fieldMisfit? p defaults f = none := by
    simp [List.filterMap_eq_nil_iff, fieldDefect?, Field.mem_all]
  rw [Payload.forall_comesTo_iff, defects, List.append_eq_nil_iff, List.append_eq_nil_iff,
    List.append_eq_nil_iff, fields, unknownDefects_eq_nil_iff]
  constructor
  · intro silent
    rcases silent with ⟨⟨⟨⟨none, unknown⟩, losses⟩, counts⟩, rfl⟩
    obtain ⟨fits, tolerated⟩ := fieldMisfits_eq_none_iff.mp none
    exact ⟨⟨fits, rfl⟩, tolerated, (pairDefects_eq_nil_iff none).mp losses,
      (pairDefects_eq_nil_iff none).mp counts, unknown⟩
  · intro passes
    rcases passes with ⟨⟨fits, rfl⟩, tolerated, losses, counts, unknown⟩
    have none := fieldMisfits_eq_none_iff.mpr ⟨fits, tolerated⟩
    exact ⟨⟨⟨⟨none, unknown⟩, (pairDefects_eq_nil_iff none).mpr losses⟩,
      (pairDefects_eq_nil_iff none).mpr counts⟩, rfl⟩

theorem audit_eq_nil_iff (o : Options) : s.audit o = [] ↔ o.Sound s.neutronCutoff := by
  rw [audit_eq, List.map_eq_nil_iff, Options.sound_iff_proper]
  constructor
  · intro none
    obtain ⟨comesTo, tolerated, losses, counts, -⟩ := defects_eq_nil_iff.mp ⟨none, rfl⟩
    have same : (Payload.ofOptions o).merged o = o :=
      Options.ext_get fun f => ((Payload.comes_to_of_options_iff o).mp (comesTo f)).1
    rw [same] at comesTo tolerated losses counts
    have proper (f : Field) := ((Payload.comes_to_of_options_iff o).mp (comesTo f)).2
    refine ⟨proper, tolerated, ?_, UInt64.not_lt.mp counts⟩
    exact (Options.losses_ordered_iff proper).mp losses
  · intro sound
    rcases sound with ⟨proper, tolerated, losses, counts⟩
    have comesTo (f : Field) : (Payload.ofOptions o).ComesTo o f (o.get f) :=
      (Payload.comes_to_of_options_iff o).mpr ⟨rfl, proper f⟩
    refine (defects_eq_nil_iff.mpr ⟨comesTo, tolerated, ?_, UInt64.not_lt.mpr counts, ?_⟩).1
    · exact (Options.losses_ordered_iff proper).mpr losses
    · exact fun _ => Payload.no_unknown_keys_of_options o

/-- A verdict that accepts gives options that pass as defaults under the same settings. -/
theorem sound_of_judge (accepted : s.judge p defaults = .ok m) : m.Sound s.neutronCutoff := by
  obtain ⟨clean, none, rfl⟩ := (judge_eq_ok_iff s p defaults m).mp accepted
  have before := Options.sound_iff_proper.mp ((audit_eq_nil_iff _).mp clean)
  obtain ⟨comesTo, tolerated, losses, counts, -⟩ := defects_eq_nil_iff.mp ⟨none, rfl⟩
  have proper (f : Field) := Payload.proper_of_comesTo (comesTo f) (before.1 f)
  refine Options.sound_iff_proper.mpr ⟨proper, tolerated, ?_, UInt64.not_lt.mp counts⟩
  exact (Options.losses_ordered_iff proper).mp losses

end Settings

/-! A negative cut-off with fast transport off: sound under one policy, unsound under the other. -/

def Settings.guarded : Settings := ⟨.reject, .whenFastNeutronTransport⟩

def Payload.transportOff : Payload :=
  TextMap.ofList
    [("fastNeutronTransportOn", .bool false),
      ("lowEnergyNeutronCutOff", .number (.whole ⟨-1, by decide⟩))]

def Options.transportOff : Options :=
  { Options.builtin with fastNeutronTransportOn := false, lowEnergyNeutronCutOff := .ofInt (-1) }

end BeamRun

/-! Which payloads are accepted over sound defaults, and what they are merged into. -/

namespace BeamRun.Settings

variable {s : Settings} {p : Payload} {defaults : Options}

theorem judge_eq_ok_iff_comesTo (clean : s.audit defaults = []) (m : Options) :
    s.judge p defaults = .ok m ↔
      (∀ f, p.ComesTo defaults f (m.get f)) ∧ s.neutronCutoff.Tolerates m ∧
        m.minEnergyLoss ≤ m.meanEnergyLoss ∧
        m.numberOfRecordedParticles ≤ m.numberOfGeneratedParticles ∧
        (s.unknownKeys = .reject → p.unknownKeys = []) := by
  have sound := Options.sound_iff_proper.mp ((audit_eq_nil_iff defaults).mp clean)
  rw [judge_eq_ok_iff, defects_eq_nil_iff, UInt64.not_lt]
  constructor
  · intro silent
    rcases silent with ⟨-, comesTo, tolerated, losses, rest⟩
    have proper (f : Field) := Payload.proper_of_comesTo (comesTo f) (sound.1 f)
    exact ⟨comesTo, tolerated, (Options.losses_ordered_iff proper).mp losses, rest⟩
  · intro accepted
    rcases accepted with ⟨comesTo, tolerated, losses, rest⟩
    have proper (f : Field) := Payload.proper_of_comesTo (comesTo f) (sound.1 f)
    exact ⟨clean, comesTo, tolerated, (Options.losses_ordered_iff proper).mpr losses, rest⟩

/-- Over defaults that pass, a payload is accepted exactly when every entry that counts denotes a
value, and these values and the defaults of the other fields keep the rules that join fields. What
is returned then is those values over those defaults. Other defaults are refused with any payload. -/
theorem acceptance_exact (s : Settings) (p : Payload) (defaults : Options) :
    (s.audit defaults = [] → ∀ m : Options,
      s.judge p defaults = .ok m ↔
        (∀ f key v, p.lookup f = some (key, v) → f.domain.Denotes v (m.get f)) ∧
        (∀ f, p.lookup f = none → m.get f = defaults.get f) ∧
        (s.neutronCutoff = .whenFastNeutronTransport ∧ m.fastNeutronTransportOn = false ∨
          Binary64.zero ≤ m.lowEnergyNeutronCutOff) ∧
        m.minEnergyLoss ≤ m.meanEnergyLoss ∧
        m.numberOfRecordedParticles ≤ m.numberOfGeneratedParticles ∧
        (s.unknownKeys = .reject → ∀ key ∈ p.keys, ∃ f : Field, key ∈ f.spellings)) ∧
      (s.audit defaults ≠ [] →
        s.judge p defaults = .error (.unsoundDefaults (s.audit defaults))) := by
  constructor
  · intro clean m
    rw [judge_eq_ok_iff_comesTo clean, Payload.unknownKeys_eq_nil_iff]
    constructor
    · intro accepted
      rcases accepted with ⟨comesTo, rest⟩
      have fields (f : Field) := Payload.comesTo_iff_lookup.mp (comesTo f)
      exact ⟨fun f => (fields f).1, fun f => (fields f).2, rest⟩
    · intro conditions
      rcases conditions with ⟨given, absent, rest⟩
      exact ⟨fun f => Payload.comesTo_iff_lookup.mpr ⟨given f, absent f⟩, rest⟩
  · intro unsound
    exact (judge_eq_unsoundDefaults_iff s p defaults _).mpr ⟨unsound, rfl⟩

theorem acceptance_exact_transportOff :
    guarded.audit .builtin = [] ∧ guarded.judge .transportOff .builtin = .ok .transportOff ∧
      (∀ f, Payload.transportOff.lookup f = none →
        Options.transportOff.get f = Options.builtin.get f) ∧
      lenient.audit .transportOff ≠ [] ∧
      lenient.judge .transportOff .transportOff =
        .error (.unsoundDefaults (lenient.audit .transportOff)) := by
  have clean : guarded.audit .builtin = [] := by decide +kernel
  have accepted : guarded.judge .transportOff .builtin = .ok .transportOff := by rfl
  have unsound : lenient.audit .transportOff ≠ [] := by decide +kernel
  obtain ⟨-, absent, -⟩ := ((acceptance_exact _ _ _).1 clean _).mp accepted
  exact ⟨clean, accepted, absent, unsound, (acceptance_exact _ _ _).2 unsound⟩

end BeamRun.Settings
