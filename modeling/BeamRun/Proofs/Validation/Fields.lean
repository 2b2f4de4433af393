import BeamRun.Proofs.Reading
import BeamRun.Proofs.Validation.Walk

/-! What each field comes to and what can be at fault with it, told without the walk. -/

namespace BeamRun

namespace Payload

variable {p : Payload} {defaults : Options} {f : Field}

/-- A field comes to what the entry that counts for it denotes, or to its default without one. -/
inductive ComesTo (p : Payload) (defaults : Options) (f : Field) : f.Value → Prop
  | absent (missing : p.lookup f = none) : ComesTo p defaults f (defaults.get f)
  | given {key : String} {v : Json} {x : f.Value} (found : p.lookup f = some (key, v))
      (denotes : f.domain.Denotes v x) : ComesTo p defaults f x

theorem comesTo_iff_lookup {x : f.Value} :
    p.ComesTo defaults f x ↔
      (∀ key v, p.lookup f = some (key, v) → f.domain.Denotes v x) ∧
        (p.lookup f = none → x = defaults.get f) := by
  constructor
  · intro h
    rcases h with missing | ⟨found, denotes⟩
    · simp [missing]
    · simp [found, denotes]
  · intro h
    rcases h with ⟨given, absent⟩
    cases found : p.lookup f with
    | none =>
      rw [absent found]
      exact .absent found
    | some entry => exact .given found (given entry.1 entry.2 found)

def Refused (p : Payload) (f : Field) (cause : Misfit) : Prop :=
  ∃ key v, p.lookup f = some (key, v) ∧ f.domain.Refuses v cause

theorem misfit_iff {cause : Misfit} : p.misfit? f = some cause ↔ p.Refused f cause := by
  constructor
  · intro h
    obtain ⟨⟨key, v⟩, found, misfit⟩ := Option.bind_eq_some_iff.mp h
    cases read : f.read v with
    | ok x => simp [read] at misfit
    | error other =>
      simp only [read, Option.some.injEq] at misfit
      subst misfit
      exact ⟨key, v, found, (Domain.read_eq_error_iff _ _ _).mp read⟩
  · intro refused
    rcases refused with ⟨key, v, found, refuses⟩
    have read : f.read v = .error cause := Domain.read_of_refuses refuses
    simp [misfit?, found, read]

theorem comesTo_iff {x : f.Value} :
    p.ComesTo defaults f x ↔ p.misfit? f = none ∧ p.effective defaults f = x := by
  constructor
  · intro h
    rcases h with missing | ⟨found, denotes⟩
    · simp [misfit?, effective, missing]
    · rename_i key v
      have read : f.read v = .ok x := Domain.read_of_denotes denotes
      simp [misfit?, effective, found, read]
  · intro h
    rcases h with ⟨fits, rfl⟩
    cases found : p.lookup f with
    | none =>
      have default : p.effective defaults f = defaults.get f := by simp [effective, found]
      rw [default]
      exact .absent found
    | some entry =>
      rcases entry with ⟨key, v⟩
      cases read : f.read v with
      | ok x =>
        have value : p.effective defaults f = x := by simp [effective, found, read]
        rw [value]
        exact .given found ((Domain.read_eq_ok_iff _ _ _).mp read)
      | error cause => simp [misfit?, found, read] at fits

theorem comesTo_effective (fits : p.misfit? f = none) :
    p.ComesTo defaults f (p.effective defaults f) :=
  comesTo_iff.mpr ⟨fits, rfl⟩

end Payload

namespace Settings

/-- The sign of the cut-off matters: always, or when fast transport comes to be on or cannot be read. -/
inductive MindsCutOff (s : Settings) (p : Payload) (defaults : Options) : Prop
  | always (policy : s.neutronCutoff = .always)
  | flagOn (on : p.ComesTo defaults .fastNeutronTransportOn true)
  | flagRefused {cause : Misfit} (refused : p.Refused .fastNeutronTransportOn cause)

/-- The one thing that is wrong with a field: what its entry is refused for, or the sign of the
cut-off that is in force. -/
inductive Faults (s : Settings) (p : Payload) (defaults : Options) : Field → Misfit → Prop
  | refused {f : Field} {cause : Misfit} (refused : p.Refused f cause) : Faults s p defaults f cause
  | cutOff {x : Binary64} (value : p.ComesTo defaults .lowEnergyNeutronCutOff x)
      (minded : s.MindsCutOff p defaults) (below : ¬ Binary64.zero ≤ x) :
      Faults s p defaults .lowEnergyNeutronCutOff (.negative x)

variable {s : Settings} {p : Payload} {defaults : Options} {f : Field}

theorem applies_true (policy : NeutronCutoffPolicy) : policy.applies true = true := by
  cases policy <;> rfl

theorem judgesCutOff_iff : s.judgesCutOff p defaults = true ↔ s.MindsCutOff p defaults := by
  have flag : (p.merged defaults).fastNeutronTransportOn =
      p.effective defaults .fastNeutronTransportOn := rfl
  rw [judgesCutOff, flag]
  constructor
  · intro judged
    cases policy : s.neutronCutoff with
    | always => exact .always policy
    | whenFastNeutronTransport =>
      cases misfit : p.misfit? .fastNeutronTransportOn with
      | some cause => exact .flagRefused (Payload.misfit_iff.mp misfit)
      | none =>
        have on : p.effective defaults .fastNeutronTransportOn = true := by
          simpa [policy, misfit, NeutronCutoffPolicy.applies] using judged
        exact .flagOn (Payload.comesTo_iff.mpr ⟨misfit, on⟩)
  · intro minded
    cases minded with
    | always policy => simp [policy, NeutronCutoffPolicy.applies]
    | flagOn on => simp [(Payload.comesTo_iff.mp on).2, applies_true]
    | flagRefused refused => simp [Payload.misfit_iff.mpr refused, applies_true]

theorem cut_off_misfit_iff {cause : Misfit} :
    s.cutOffMisfit? p defaults = some cause ↔
      s.MindsCutOff p defaults ∧
        ¬ Binary64.zero ≤ p.effective defaults .lowEnergyNeutronCutOff ∧
        cause = .negative (p.effective defaults .lowEnergyNeutronCutOff) := by
  rw [← judgesCutOff_iff, cutOffMisfit?]
  split
  · next judged =>
    constructor
    · intro found
      exact ⟨judged.1, judged.2, (Option.some.inj found).symm⟩
    · intro found
      rcases found with ⟨-, -, rfl⟩
      rfl
  · next harmless =>
    constructor
    · intro found
      cases found
    · intro found
      rcases found with ⟨judged, below, -⟩
      exact absurd ⟨judged, below⟩ harmless

theorem field_misfit_iff {cause : Misfit} :
    s.fieldMisfit? p defaults f = some cause ↔ s.Faults p defaults f cause := by
  cases misfit : p.misfit? f with
  | some own =>
    have refused := Payload.misfit_iff.mp misfit
    rw [fieldMisfit?, misfit, Option.some_or]
    constructor
    · intro found
      rcases found with ⟨⟩
      exact .refused refused
    · intro faults
      rcases faults with other | ⟨value, -, -⟩
      · rw [← misfit, Payload.misfit_iff]
        exact other
      · rw [(Payload.comesTo_iff.mp value).1] at misfit
        cases misfit
  | none =>
    rw [fieldMisfit?, misfit, Option.none_or]
    constructor
    · intro h
      split at h
      · next cutOff =>
        subst cutOff
        obtain ⟨minded, below, rfl⟩ := cut_off_misfit_iff.mp h
        exact .cutOff (Payload.comesTo_effective misfit) minded below
      · cases h
    · intro faults
      rcases faults with refused | ⟨value, minded, below⟩
      · rw [Payload.misfit_iff.mpr refused] at misfit
        cases misfit
      · obtain ⟨-, rfl⟩ := Payload.comesTo_iff.mp value
        rw [if_pos rfl]
        exact cut_off_misfit_iff.mpr ⟨minded, below, rfl⟩

theorem no_field_misfit_iff :
    s.fieldMisfit? p defaults f = none ↔ ∀ cause, ¬ s.Faults p defaults f cause := by
  simp [Option.eq_none_iff_forall_ne_some, field_misfit_iff]

end Settings
end BeamRun
