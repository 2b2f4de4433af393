import BeamRun.Proofs.Validation.Audit

/-! The options that come into circulation: the built-in ones, and whatever is accepted over options
already obtained, under settings that may change from one verdict to the next. -/

namespace BeamRun

/-- Options reached from the built-in ones by verdicts under settings of some class. -/
inductive Obtained (usable : Settings → Prop) : Options → Prop
  | builtin : Obtained usable .builtin
  | accepted {s : Settings} {p : Payload} {defaults m : Options} (allowed : usable s)
      (before : Obtained usable defaults) (verdict : s.judge p defaults = .ok m) :
      Obtained usable m

namespace Options

theorem builtin_sound (policy : NeutronCutoffPolicy) : builtin.Sound policy where
  mean_finite := by decide +kernel
  mean_nonnegative := by decide +kernel
  min_finite := by decide +kernel
  min_nonnegative := by decide +kernel
  min_le_mean := by decide +kernel
  cutOff_finite := by decide +kernel
  cutOff_tolerated := .inr (by decide +kernel)
  generated_positive := by decide
  recorded_positive := by decide
  recorded_le_generated := by decide

theorem Sound.relax {policy : NeutronCutoffPolicy} {o : Options} (h : o.Sound policy) :
    o.Sound .whenFastNeutronTransport :=
  { h with cutOff_tolerated := h.cutOff_tolerated.imp (fun off => ⟨rfl, off.2⟩) id }

/-- Options that are sound where the sign of the cut-off matters least fail elsewhere by it alone. -/
theorem Sound.sound_iff {policy : NeutronCutoffPolicy} {o : Options}
    (h : o.Sound .whenFastNeutronTransport) :
    o.Sound policy ↔ ¬ (policy = .always ∧ o.lowEnergyNeutronCutOff < Binary64.zero) := by
  rw [← Binary64.not_zero_le_iff (Binary64.isNaN_of_isFinite h.cutOff_finite)]
  cases policy with
  | whenFastNeutronTransport => simp [h]
  | always =>
    simp only [true_and, Decidable.not_not]
    constructor
    · intro sound
      exact sound.cutOff_tolerated.resolve_left fun off => nomatch off.1
    · intro nonnegative
      exact { h with cutOff_tolerated := .inr nonnegative }

end Options

/-- What every verdict in use leaves sound is sound however it was obtained: the last verdict decides. -/
theorem Obtained.sound {usable : Settings → Prop} {policy : NeutronCutoffPolicy} {o : Options}
    (kept : ∀ s, usable s → ∀ m : Options, m.Sound s.neutronCutoff → m.Sound policy)
    (obtained : Obtained usable o) : o.Sound policy := by
  cases obtained with
  | builtin => exact Options.builtin_sound policy
  | accepted allowed before verdict => exact kept _ allowed _ (Settings.sound_of_judge verdict)

namespace Settings

theorem audit_of_negative_cutOff {s : Settings} {o : Options} (always : s.neutronCutoff = .always)
    (sound : o.Sound .whenFastNeutronTransport)
    (negative : o.lowEnergyNeutronCutOff < Binary64.zero) :
    s.audit o =
      [⟨"lowEnergyNeutronCutOff", .domainViolation,
        "must be >= 0 (got " ++ Decimal.plainText o.lowEnergyNeutronCutOff ++ ")", none⟩] := by
  obtain ⟨proper, -, losses, counts⟩ := Options.sound_iff_proper.mp sound
  have below : ¬ Binary64.zero ≤ o.lowEnergyNeutronCutOff :=
    (Binary64.not_zero_le_iff (Binary64.isNaN_of_isFinite sound.cutOff_finite)).mpr negative
  have only (f : Field) : o.flaw? s.neutronCutoff f =
      if f = .lowEnergyNeutronCutOff then some (.negative o.lowEnergyNeutronCutOff) else none := by
    simp [Options.flaw_of_proper proper, always, NeutronCutoffPolicy.applies, below]
  have fields : (Field.all.filterMap fun f =>
      (o.flaw? s.neutronCutoff f).map (Defect.misfit f)) =
        [.misfit .lowEnergyNeutronCutOff (.negative o.lowEnergyNeutronCutOff)] := by
    simp [Field.all, only]
  have lossesOrdered : ¬ o.meanEnergyLoss < o.minEnergyLoss :=
    (Options.losses_ordered_iff proper).mpr losses
  have countsOrdered : ¬ o.numberOfGeneratedParticles < o.numberOfRecordedParticles :=
    UInt64.not_lt.mpr counts
  rw [audit_eq_flaws, Options.flaws, fields, Options.pairFlaws_eq_nil lossesOrdered,
    Options.pairFlaws_eq_nil countsOrdered]
  rfl

/-- However settings change between verdicts, everything obtained stays finite, ordered and in range,
and a verdict over it refuses its defaults only for a negative cut-off where the sign always matters.
Under settings that never change it refuses them never. -/
theorem obtained_options_stay_sound :
    (∀ usable o, Obtained usable o →
      o.Sound .whenFastNeutronTransport ∧
        (o.lowEnergyNeutronCutOff < Binary64.zero → o.fastNeutronTransportOn = false)) ∧
    (∀ (s : Settings) (p : Payload) (defaults m : Options),
      s.judge p defaults = .ok m → s.audit m = []) ∧
    (∀ usable defaults, Obtained usable defaults → ∀ (s : Settings) (p : Payload),
      ((∃ vs, s.judge p defaults = .error (.unsoundDefaults vs)) ↔
        s.neutronCutoff = .always ∧ defaults.lowEnergyNeutronCutOff < Binary64.zero) ∧
      ∀ vs, s.judge p defaults = .error (.unsoundDefaults vs) →
        vs = [⟨"lowEnergyNeutronCutOff", .domainViolation,
          "must be >= 0 (got " ++ Decimal.plainText defaults.lowEnergyNeutronCutOff ++ ")", none⟩]) ∧
    (∀ (s : Settings) (defaults : Options), Obtained (· = s) defaults → ∀ (p : Payload) vs,
      s.judge p defaults ≠ .error (.unsoundDefaults vs)) := by
  have sound {usable : Settings → Prop} {o : Options} (obtained : Obtained usable o) :
      o.Sound .whenFastNeutronTransport :=
    obtained.sound fun _ _ _ => Options.Sound.relax
  refine ⟨?_, ?_, ?_, ?_⟩
  · intro usable o obtained
    refine ⟨sound obtained, fun negative => ?_⟩
    rcases (sound obtained).cutOff_tolerated with off | nonnegative
    · exact off.2
    · have finite := Binary64.isNaN_of_isFinite (sound obtained).cutOff_finite
      exact absurd nonnegative ((Binary64.not_zero_le_iff finite).mpr negative)
  · intro s p defaults m accepted
    exact (audit_eq_nil_iff m).mpr (sound_of_judge accepted)
  · intro usable defaults obtained s p
    have refused : (∃ vs, s.judge p defaults = .error (.unsoundDefaults vs)) ↔
        s.neutronCutoff = .always ∧ defaults.lowEnergyNeutronCutOff < Binary64.zero := by
      simp only [judge_eq_unsoundDefaults_iff, exists_and_left, exists_eq, and_true]
      rw [ne_eq, audit_eq_nil_iff, (sound obtained).sound_iff, Decidable.not_not]
    refine ⟨refused, fun vs verdict => ?_⟩
    obtain ⟨always, negative⟩ := refused.mp ⟨vs, verdict⟩
    rw [((judge_eq_unsoundDefaults_iff s p defaults vs).mp verdict).2]
    exact audit_of_negative_cutOff always (sound obtained) negative
  · intro s defaults obtained p vs verdict
    have same : defaults.Sound s.neutronCutoff :=
      obtained.sound fun t (only : t = s) _ kept => only ▸ kept
    exact ((judge_eq_unsoundDefaults_iff s p defaults vs).mp verdict).1
      ((audit_eq_nil_iff defaults).mpr same)

theorem obtained_options_stay_sound_transportOff :
    Obtained (· = guarded) .transportOff ∧ guarded.audit .transportOff = [] ∧
      lenient.judge .transportOff .transportOff = .error (.unsoundDefaults
        [⟨"lowEnergyNeutronCutOff", .domainViolation, "must be >= 0 (got -1)", none⟩]) := by
  have accepted : guarded.judge .transportOff .builtin = .ok .transportOff := by rfl
  have obtained : Obtained (· = guarded) .transportOff := .accepted rfl .builtin accepted
  obtain ⟨-, clean, refused, -⟩ := obtained_options_stay_sound
  refine ⟨obtained, clean _ _ _ _ accepted, ?_⟩
  obtain ⟨exactly, which⟩ := refused _ _ obtained lenient .transportOff
  obtain ⟨vs, verdict⟩ := exactly.mpr ⟨rfl, by decide +kernel⟩
  have text : Decimal.plainText Options.transportOff.lowEnergyNeutronCutOff = "-1" := by decide +kernel
  rw [verdict, which vs verdict, text]
  rfl

end Settings
end BeamRun
