import BeamRun.Proofs.Validation.Acceptance

namespace BeamRun.Settings

/-- The same fields do not fit, for the same causes, the others have the same values, and the same
keys are left over. Nothing is asked about the defaults under fields that do not fit. -/
structure Alike (s : Settings) (p q : Payload) (defaults others : Options) : Prop where
  misfit_congr (f : Field) : p.misfit? f = q.misfit? f
  effective_eq (f : Field) (fits : p.misfit? f = none) :
    p.effective defaults f = q.effective others f
  unknown_eq : s.unknownDefects p = s.unknownDefects q

namespace Alike

variable {s : Settings} {p q : Payload} {defaults others : Options}

theorem get_merged_eq (h : s.Alike p q defaults others) {f : Field} (fits : p.misfit? f = none) :
    (p.merged defaults).get f = (q.merged others).get f := by
  rw [Payload.get_merged, Payload.get_merged, h.effective_eq f fits]

/-- A flag that does not fit counts as on, so the default under it is never read. -/
theorem judgesCutOff_eq (h : s.Alike p q defaults others) :
    s.judgesCutOff p defaults = s.judgesCutOff q others := by
  have same := h.misfit_congr .fastNeutronTransportOn
  cases misfit : p.misfit? .fastNeutronTransportOn with
  | some cause =>
    rw [misfit] at same
    simp [judgesCutOff, misfit, ← same]
  | none =>
    have value : (p.merged defaults).fastNeutronTransportOn =
        (q.merged others).fastNeutronTransportOn := h.get_merged_eq misfit
    rw [judgesCutOff, judgesCutOff, same, value]

theorem cut_off_misfit_congr (h : s.Alike p q defaults others)
    (fits : p.misfit? .lowEnergyNeutronCutOff = none) :
    s.cutOffMisfit? p defaults = s.cutOffMisfit? q others := by
  have value : (p.merged defaults).lowEnergyNeutronCutOff =
      (q.merged others).lowEnergyNeutronCutOff := h.get_merged_eq fits
  rw [cutOffMisfit?, cutOffMisfit?, h.judgesCutOff_eq, value]

theorem field_misfit_congr (h : s.Alike p q defaults others) (f : Field) :
    s.fieldMisfit? p defaults f = s.fieldMisfit? q others f := by
  have same := h.misfit_congr f
  cases misfit : p.misfit? f with
  | some cause =>
    rw [misfit] at same
    rw [fieldMisfit?, fieldMisfit?, misfit, ← same, Option.some_or, Option.some_or]
  | none =>
    rw [fieldMisfit?, fieldMisfit?, same]
    split
    · next cutOff =>
      subst cutOff
      rw [h.cut_off_misfit_congr misfit]
    · rfl

theorem pairDefects_eq (h : s.Alike p q defaults others) {smaller greater : Field}
    {reversed : smaller.Value → greater.Value → Prop} [∀ x y, Decidable (reversed x y)]
    {defect : smaller.Value → greater.Value → Defect} :
    s.pairDefects p defaults smaller greater reversed defect =
      s.pairDefects q others smaller greater reversed defect := by
  have value {f : Field} (faultless : s.fieldMisfit? p defaults f = none) :
      (p.merged defaults).get f = (q.merged others).get f :=
    h.get_merged_eq (Option.or_eq_none_iff.mp faultless).1
  rw [pairDefects, pairDefects, ← h.field_misfit_congr smaller, ← h.field_misfit_congr greater]
  by_cases faultless :
      s.fieldMisfit? p defaults smaller = none ∧ s.fieldMisfit? p defaults greater = none
  · rw [value faultless.1, value faultless.2]
  · rw [if_neg fun found => faultless ⟨found.1, found.2.1⟩,
      if_neg fun found => faultless ⟨found.1, found.2.1⟩]

theorem defects_eq (h : s.Alike p q defaults others) :
    s.defects p defaults = s.defects q others := by
  have fields : s.fieldDefect? p defaults = s.fieldDefect? q others := by
    funext f
    rw [fieldDefect?, fieldDefect?, h.field_misfit_congr]
  rw [defects, defects, fields, h.unknown_eq, lossDefects, lossDefects, h.pairDefects_eq, countDefects,
    countDefects, h.pairDefects_eq]

theorem merged_eq (h : s.Alike p q defaults others) (none : s.defects p defaults = []) :
    p.merged defaults = q.merged others := by
  obtain ⟨comesTo, -⟩ := defects_eq_nil_iff.mp ⟨none, rfl⟩
  exact Options.ext_get fun f => h.get_merged_eq (Payload.comesTo_iff.mp (comesTo f)).1

theorem judge_eq_judge (h : s.Alike p q defaults others) (clean : s.audit defaults = [])
    (otherClean : s.audit others = []) : s.judge p defaults = s.judge q others := by
  rw [judge_eq, judge_eq, if_pos clean, if_pos otherClean, h.defects_eq]
  split
  · next none => rw [h.merged_eq (h.defects_eq.trans none)]
  · rfl

end Alike
end BeamRun.Settings
