import BeamRun.Proofs.Validation.Agreement

/-! How far a verdict depends on the defaults: on those under fields that the payload does not spell,
and on no others. Options taken as a payload spell every field, so defaults have no say in them. -/

namespace BeamRun

namespace Payload

variable {p : Payload} {f : Field}

theorem spelled_ofOptions (o : Options) (f : Field) :
    ∃ key ∈ f.spellings, key ∈ (ofOptions o).keys := by
  refine Decidable.byContradiction fun unspelled => ?_
  have missing : (ofOptions o).lookup f = none :=
    lookup_eq_none_iff_keys.mpr fun key spelling member => unspelled ⟨key, spelling, member⟩
  rw [lookup_of_options] at missing
  cases missing

/-- The default under a spelled field is read only where its value does not fit. -/
theorem effective_congr {defaults others : Options} (fits : p.misfit? f = none)
    (agree : p.lookup f = none → defaults.get f = others.get f) :
    p.effective defaults f = p.effective others f := by
  cases found : p.lookup f with
  | none => simp [effective, found, agree found]
  | some entry =>
    rcases entry with ⟨key, v⟩
    cases read : f.read v with
    | ok x => simp [effective, found, read]
    | error cause => simp [misfit?, found, read] at fits

end Payload

namespace Settings

variable {s : Settings} {p : Payload} {defaults others o : Options}

theorem alike_of_agree (s : Settings)
    (agree : ∀ f, p.lookup f = none → defaults.get f = others.get f) :
    s.Alike p p defaults others where
  misfit_congr _ := rfl
  effective_eq f fits := Payload.effective_congr fits (agree f)
  unknown_eq := rfl

/-- Whatever the payload spells hides the default under it, also where the value it gives is refused:
over defaults that pass and agree on all other fields the verdict is the same. A payload that spells
every field gets one verdict over all defaults that pass. -/
theorem overridden_defaults_hidden (s : Settings) (p : Payload) :
    (∀ defaults others : Options, s.audit defaults = [] → s.audit others = [] →
      (∀ f : Field, (∀ key ∈ f.spellings, key ∉ p.keys) → defaults.get f = others.get f) →
      s.judge p defaults = s.judge p others) ∧
    ((∀ f : Field, ∃ key ∈ f.spellings, key ∈ p.keys) →
      ∀ defaults others : Options, s.audit defaults = [] → s.audit others = [] →
        s.judge p defaults = s.judge p others) := by
  constructor
  · intro defaults others clean otherClean agree
    have alike : s.Alike p p defaults others :=
      alike_of_agree s fun f missing => agree f (Payload.lookup_eq_none_iff_keys.mp missing)
    exact alike.judge_eq_judge clean otherClean
  · intro complete defaults others clean otherClean
    have alike : s.Alike p p defaults others := by
      apply alike_of_agree
      intro f missing
      obtain ⟨key, spelling, member⟩ := complete f
      exact absurd member (Payload.lookup_eq_none_iff_keys.mp missing key spelling)
    exact alike.judge_eq_judge clean otherClean

/-- A flag that cannot be read, over a default that is on in one run and off in the other. -/
def mistypedFlag : Payload := Payload.transportOff.insert "fastNeutronTransportOn" (.string "off")

theorem overridden_defaults_hidden_mistypedFlag :
    guarded.audit .builtin = [] ∧ guarded.audit .transportOff = [] ∧
      Options.builtin.fastNeutronTransportOn ≠ Options.transportOff.fastNeutronTransportOn ∧
      guarded.judge mistypedFlag .builtin = guarded.judge mistypedFlag .transportOff ∧
      guarded.judge (.ofOptions .transportOff) .builtin =
        guarded.judge (.ofOptions .transportOff) .transportOff := by
  have clean : guarded.audit .builtin = [] := by decide +kernel
  have otherClean : guarded.audit .transportOff = [] := by decide +kernel
  have agree (f : Field) (unspelled : ∀ key ∈ f.spellings, key ∉ mistypedFlag.keys) :
      Options.builtin.get f = Options.transportOff.get f := by
    cases f with
    | fastNeutronTransportOn => exact absurd (by decide +kernel) (unspelled _ (.head _))
    | lowEnergyNeutronCutOff => exact absurd (by decide +kernel) (unspelled _ (.head _))
    | _ => rfl
  have complete := Payload.spelled_ofOptions .transportOff
  exact ⟨clean, otherClean, by decide,
    (overridden_defaults_hidden guarded mistypedFlag).1 _ _ clean otherClean agree,
    (overridden_defaults_hidden guarded (.ofOptions .transportOff)).2 complete _ _ clean otherClean⟩

theorem defects_ofOptions (s : Settings) (o defaults : Options) :
    s.defects (.ofOptions o) defaults = s.defects (.ofOptions o) o := by
  refine (alike_of_agree s fun f missing => ?_).defects_eq
  rw [Payload.lookup_of_options] at missing
  cases missing

theorem merged_ofOptions (sound : s.audit o = []) (defaults : Options) :
    (Payload.ofOptions o).merged defaults = o := by
  have proper := (Options.sound_iff_proper.mp ((audit_eq_nil_iff o).mp sound)).1
  apply Options.ext_get
  intro f
  have given : (Payload.ofOptions o).ComesTo defaults f (o.get f) :=
    .given (Payload.lookup_of_options o f) (Domain.denotes_encode (proper f))
  rw [Payload.get_merged, (Payload.comesTo_iff.mp given).2]

/-- Options taken as a payload are judged as an audit judges them, over any defaults that pass. -/
theorem judge_ofOptions (clean : s.audit defaults = []) (o : Options) :
    s.judge (.ofOptions o) defaults =
      if s.audit o = [] then .ok o else .error (.rejected (s.audit o)) := by
  have found : s.audit o = (s.defects (.ofOptions o) defaults).map Defect.violation := by
    rw [audit_eq, defects_ofOptions s o defaults]
  rw [judge_eq, if_pos clean]
  by_cases sound : s.audit o = []
  · rw [if_pos sound, if_pos (List.map_eq_nil_iff.mp (found.symm.trans sound)),
      merged_ofOptions sound]
  · have some : s.defects (.ofOptions o) defaults ≠ [] := by
      intro none
      rw [found, none] at sound
      exact sound rfl
    rw [if_neg sound, if_neg some, found]

/-- Options that pass are accepted as they are, bit for bit, over all defaults that pass; no others
are accepted as they are. -/
theorem validation_idempotent (s : Settings) (o defaults : Options) (clean : s.audit defaults = []) :
    s.judge (.ofOptions o) defaults = .ok o ↔ s.audit o = [] := by
  rw [judge_ofOptions clean]
  constructor
  · intro accepted
    split at accepted
    · next sound => exact sound
    · cases accepted
  · intro sound
    rw [if_pos sound]

/-- The extremes in one: a negative zero, the least number, and the greatest count. -/
def extremes : Options :=
  { Options.transportOff with
    meanEnergyLoss := ⟨1⟩
    minEnergyLoss := Binary64.zero.neg
    numberOfGeneratedParticles := 18446744073709551615
    numberOfRecordedParticles := 18446744073709551615 }

theorem validation_idempotent_extremes :
    guarded.audit .builtin = [] ∧ guarded.audit extremes = [] ∧
      guarded.judge (.ofOptions extremes) .builtin = .ok extremes := by
  have clean : guarded.audit .builtin = [] := by decide +kernel
  have sound : guarded.audit extremes = [] := by decide +kernel
  exact ⟨clean, sound, (validation_idempotent guarded extremes .builtin clean).mpr sound⟩

end Settings
end BeamRun
