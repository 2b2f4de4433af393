import BeamRun.Proofs.Validation.Acceptance

/-! What an audit finds, told of the options themselves: the way through a document, on which a number
that is not finite is lost, comes to the same as a look at each value. -/

namespace BeamRun

namespace Domain

def flaw? : (d : Domain) → d.Value → Option Misfit
  | amount, x =>
    if x.isFinite = true then if Binary64.zero ≤ x then none else some (.negative x)
    else some (.mistyped .null)
  | number, x => if x.isFinite = true then none else some (.mistyped .null)
  | count, n => if 1 ≤ n then none else some (.belowOne 0)
  | _, _ => none

theorem no_flaw_iff {d : Domain} {x : d.Value} : d.flaw? x = none ↔ d.Proper x := by
  cases d with
  | amount =>
    simp only [flaw?, Proper]
    split
    · next finite => simp [finite]
    · next infinite => simp [infinite]
  | number => simp [flaw?, Proper]
  | count =>
    simp only [flaw?, Proper]
    split
    · next positive => simp [positive]
    · next below => simp [below]
  | flag => simp [flaw?, Proper]
  | scattering => simp [flaw?, Proper]
  | straggling => simp [flaw?, Proper]

theorem refuses_encode {d : Domain} {x : d.Value} {cause : Misfit} (flaw : d.flaw? x = some cause) :
    d.Refuses (d.encode x) cause := by
  have lost {x : Binary64} (infinite : ¬ x.isFinite = true) : Json.ofBinary64 x = .null :=
    dif_neg infinite
  cases d with
  | amount =>
    simp only [flaw?] at flaw
    split at flaw
    · next finite =>
      split at flaw
      · cases flaw
      · next below =>
        cases flaw
        rw [encode, Json.ofBinary64, dif_pos finite]
        exact .negative (.real ⟨x, finite⟩) below
    · next infinite =>
      cases flaw
      rw [encode, lost infinite]
      exact .mistyped (by decide)
  | number =>
    simp only [flaw?] at flaw
    split at flaw
    · cases flaw
    · next infinite =>
      cases flaw
      rw [encode, lost infinite]
      exact .mistyped (by decide)
  | count =>
    simp only [flaw?] at flaw
    split at flaw
    · cases flaw
    · next below =>
      cases flaw
      have zero : x = 0 := by
        have small := UInt64.lt_iff_toNat_lt.mp (UInt64.not_le.mp below)
        rw [UInt64.toNat_one] at small
        exact UInt64.toNat_inj.mp (by rw [UInt64.toNat_zero]; omega)
      subst zero
      exact .belowOne _ (by decide)
  | flag => cases flaw
  | scattering => cases flaw
  | straggling => cases flaw

def unwritten : (d : Domain) → d.Value → Bool
  | amount, x => !x.isFinite
  | number, x => !x.isFinite
  | _, _ => false

/-- What has no written form is of the wrong type, and nothing else is. -/
theorem mistyped_flaw (d : Domain) (x : d.Value) :
    (d.flaw? x).filter (·.kind == .typeMismatch) =
      if d.unwritten x then some (.mistyped .null) else none := by
  cases d with
  | amount =>
    cases finite : x.isFinite with
    | false => simp [flaw?, unwritten, finite, Misfit.kind]
    | true =>
      simp only [flaw?, unwritten, finite, if_true]
      split <;> rfl
  | number =>
    cases finite : x.isFinite with
    | false => simp [flaw?, unwritten, finite, Misfit.kind]
    | true => simp [flaw?, unwritten, finite]
  | count =>
    simp only [flaw?, unwritten]
    split <;> rfl
  | flag => rfl
  | scattering => rfl
  | straggling => rfl

end Domain

theorem Defect.kind_eq_unknownField_iff (d : Defect) :
    d.violation.kind = .unknownField ↔ ∃ key, d = .unknown key := by
  cases d with
  | misfit f cause => cases cause <;> simp [violation, Misfit.kind]
  | unknown key => simp [violation]
  | lossesReversed => simp [violation]
  | countsReversed => simp [violation]

namespace Options

/-- What is wrong with one of the options; the sign of the cut-off is a matter of policy. -/
def flaw? (o : Options) (policy : NeutronCutoffPolicy) (f : Field) : Option Misfit :=
  (f.domain.flaw? (o.get f)).or
    (if f = .lowEnergyNeutronCutOff ∧ policy.applies o.fastNeutronTransportOn = true ∧
        ¬ Binary64.zero ≤ o.lowEnergyNeutronCutOff then
      some (.negative o.lowEnergyNeutronCutOff)
    else none)

/-- A pair in the wrong order, where each of the two is right on its own. -/
def pairFlaws (o : Options) (policy : NeutronCutoffPolicy) (smaller greater : Field)
    (reversed : smaller.Value → greater.Value → Prop) [∀ x y, Decidable (reversed x y)]
    (defect : smaller.Value → greater.Value → Defect) : List Defect :=
  if o.flaw? policy smaller = none ∧ o.flaw? policy greater = none ∧
      reversed (o.get smaller) (o.get greater) then
    [defect (o.get smaller) (o.get greater)]
  else []

/-- Everything that is wrong with options, in the order of a report. -/
def flaws (o : Options) (policy : NeutronCutoffPolicy) : List Defect :=
  (Field.all.filterMap fun f => (o.flaw? policy f).map (Defect.misfit f)) ++
    o.pairFlaws policy .minEnergyLoss .meanEnergyLoss
      (fun (minimum mean : Binary64) => mean < minimum) .lossesReversed ++
    o.pairFlaws policy .numberOfRecordedParticles .numberOfGeneratedParticles
      (fun (recorded generated : UInt64) => generated < recorded) .countsReversed

theorem pairFlaws_eq_nil {o : Options} {policy : NeutronCutoffPolicy} {smaller greater : Field}
    {reversed : smaller.Value → greater.Value → Prop} [∀ x y, Decidable (reversed x y)]
    {defect : smaller.Value → greater.Value → Defect}
    (ordered : ¬ reversed (o.get smaller) (o.get greater)) :
    o.pairFlaws policy smaller greater reversed defect = [] :=
  if_neg fun flawed => ordered flawed.2.2

/-- Where every value passes on its own, the sign of the cut-off is all that can be wrong with one. -/
theorem flaw_of_proper {o : Options} (proper : ∀ f : Field, f.domain.Proper (o.get f))
    (policy : NeutronCutoffPolicy) (f : Field) :
    o.flaw? policy f =
      if f = .lowEnergyNeutronCutOff ∧ policy.applies o.fastNeutronTransportOn = true ∧
          ¬ Binary64.zero ≤ o.lowEnergyNeutronCutOff then
        some (.negative o.lowEnergyNeutronCutOff)
      else none := by
  rw [flaw?, Domain.no_flaw_iff.mpr (proper f), Option.none_or]

/-- The options that count energy, in catalogue order. -/
def namedEnergies (o : Options) : List (Field × Binary64) :=
  [(.meanEnergyLoss, o.meanEnergyLoss), (.minEnergyLoss, o.minEnergyLoss),
    (.lowEnergyNeutronCutOff, o.lowEnergyNeutronCutOff)]

theorem mistyped_flaw (o : Options) (policy : NeutronCutoffPolicy) (f : Field) :
    (o.flaw? policy f).filter (·.kind == .typeMismatch) =
      if f.domain.unwritten (o.get f) then some (.mistyped .null) else none := by
  rw [← Domain.mistyped_flaw, flaw?]
  cases f.domain.flaw? (o.get f) with
  | some cause => rfl
  | none =>
    rw [Option.none_or]
    split <;> rfl

theorem mistyped_pairFlaws (o : Options) (policy : NeutronCutoffPolicy) {smaller greater : Field}
    {reversed : smaller.Value → greater.Value → Prop} [∀ x y, Decidable (reversed x y)]
    {defect : smaller.Value → greater.Value → Defect}
    (crossing : ∀ x y, (defect x y).violation.kind = .crossFieldViolation) :
    (o.pairFlaws policy smaller greater reversed defect).filter
      (·.violation.kind == .typeMismatch) = [] := by
  rw [pairFlaws]
  split
  · simp [crossing]
  · rfl

/-- What is told to be of the wrong type: the energies that are not finite, each once. -/
theorem mistyped_flaws (o : Options) (policy : NeutronCutoffPolicy) :
    (o.flaws policy).filter (·.violation.kind == .typeMismatch) =
      (o.namedEnergies.filter (!·.2.isFinite)).map fun e => .misfit e.1 (.mistyped .null) := by
  have fields (f : Field) :
      ((o.flaw? policy f).map (Defect.misfit f)).filter (·.violation.kind == .typeMismatch) =
        if f.domain.unwritten (o.get f) then some (.misfit f (.mistyped .null)) else none := by
    have kinds : ((·.violation.kind == .typeMismatch) ∘ Defect.misfit f : Misfit → Bool) =
        (·.kind == .typeMismatch) := rfl
    rw [Option.filter_map, kinds, mistyped_flaw]
    split <;> rfl
  rw [flaws, List.filter_append, List.filter_append, o.mistyped_pairFlaws policy fun _ _ => rfl,
    o.mistyped_pairFlaws policy fun _ _ => rfl, List.append_nil, List.append_nil,
    List.filter_filterMap]
  simp only [fields]
  -- Of the eleven fields only these three can hold a number without a written form.
  cases mean : o.meanEnergyLoss.isFinite <;> cases minimum : o.minEnergyLoss.isFinite <;>
    cases cutOff : o.lowEnergyNeutronCutOff.isFinite <;>
    simp [Field.all, namedEnergies, Field.domain, Domain.unwritten, get, mean, minimum, cutOff]

end Options

namespace Payload

theorem misfit_of_options (o : Options) (f : Field) :
    (ofOptions o).misfit? f = f.domain.flaw? (o.get f) := by
  cases flaw : f.domain.flaw? (o.get f) with
  | none =>
    have proper := Domain.no_flaw_iff.mp flaw
    have comesTo : (ofOptions o).ComesTo o f (o.get f) :=
      (comes_to_of_options_iff o).mpr ⟨rfl, proper⟩
    exact (comesTo_iff.mp comesTo).1
  | some cause =>
    exact misfit_iff.mpr ⟨_, _, lookup_of_options o f, Domain.refuses_encode flaw⟩

/-- A value that is refused stays in place as the default under it. -/
theorem merged_self (o : Options) : (ofOptions o).merged o = o := by
  apply Options.ext_get
  intro f
  have found := lookup_of_options o f
  rw [get_merged, effective, found]
  cases read : f.read (o.valueOf f) with
  | error cause => simp only [read]
  | ok x =>
    simp only [read]
    exact Domain.eq_of_denotes_encode ((Domain.read_eq_ok_iff _ _ _).mp read)

end Payload

namespace Settings

variable (s : Settings) (o : Options)

theorem field_misfit_of_options (f : Field) :
    s.fieldMisfit? (.ofOptions o) o f = o.flaw? s.neutronCutoff f := by
  have flag : (Payload.ofOptions o).misfit? .fastNeutronTransportOn = none :=
    Payload.misfit_of_options o .fastNeutronTransportOn
  rw [fieldMisfit?, Options.flaw?, Payload.misfit_of_options, cutOffMisfit?, judgesCutOff,
    Payload.merged_self, flag, Option.isSome_none, Bool.false_or]
  by_cases cutOff : f = .lowEnergyNeutronCutOff
  · simp only [cutOff, if_true, true_and]
  · simp only [cutOff, if_false, false_and]

theorem pair_defects_of_options (smaller greater : Field)
    (reversed : smaller.Value → greater.Value → Prop) [∀ x y, Decidable (reversed x y)]
    (defect : smaller.Value → greater.Value → Defect) :
    s.pairDefects (.ofOptions o) o smaller greater reversed defect =
      o.pairFlaws s.neutronCutoff smaller greater reversed defect := by
  rw [pairDefects, Options.pairFlaws]
  simp only [field_misfit_of_options, Payload.merged_self]

theorem defects_self : s.defects (.ofOptions o) o = o.flaws s.neutronCutoff := by
  have fields : s.fieldDefect? (.ofOptions o) o =
      fun f => (o.flaw? s.neutronCutoff f).map (Defect.misfit f) := by
    funext f
    rw [fieldDefect?, field_misfit_of_options]
  have unknown : s.unknownDefects (.ofOptions o) = [] :=
    unknownDefects_eq_nil_iff.mpr fun _ => Payload.no_unknown_keys_of_options o
  rw [defects, fields, unknown, List.append_nil, lossDefects, countDefects, pair_defects_of_options,
    pair_defects_of_options, Options.flaws]

theorem audit_eq_flaws : s.audit o = (o.flaws s.neutronCutoff).map Defect.violation := by
  rw [audit_eq, defects_self]

/-- An audit decides soundness of any options whatever. An energy that is not finite is told of as
missing, under its own name, and nothing else is told to be of the wrong type. What is done with
unknown keys makes no difference to it, and it finds none. -/
theorem audit_decides :
    (s.audit o = [] ↔ o.Sound s.neutronCutoff) ∧
    (s.audit o).filter (·.kind == .typeMismatch) =
      (o.namedEnergies.filter (!·.2.isFinite)).map (fun energy =>
        ⟨energy.1.name, .typeMismatch, "expected a number, found null", none⟩) ∧
    (∀ policy, { s with unknownKeys := policy }.audit o = s.audit o) ∧
    (s.audit o).countOf .unknownField = 0 := by
  refine ⟨audit_eq_nil_iff o, ?_, fun policy => ?_, ?_⟩
  · have words : ∀ energy ∈ o.namedEnergies, (Defect.misfit energy.1 (.mistyped .null)).violation =
        ⟨energy.1.name, .typeMismatch, "expected a number, found null", none⟩ := by
      simp only [Options.namedEnergies, List.forall_mem_cons]
      exact ⟨rfl, rfl, rfl, nofun⟩
    have kinds : ((·.kind == .typeMismatch) ∘ Defect.violation : Defect → Bool) =
        (·.violation.kind == .typeMismatch) := rfl
    rw [audit_eq_flaws, List.filter_map, kinds, Options.mistyped_flaws, List.map_map]
    exact List.map_congr_left fun energy lost => words energy (List.mem_filter.mp lost).1
  · rw [audit_eq_flaws, audit_eq_flaws]
  · rw [Violations.countOf, List.countP_eq_zero, audit_eq]
    intro v found
    obtain ⟨d, defect, rfl⟩ := List.mem_map.mp found
    rw [beq_iff_eq, Defect.kind_eq_unknownField_iff]
    rintro ⟨key, rfl⟩
    have unknown := (unknown_mem_defects_iff.mp defect).2
    rw [Payload.no_unknown_keys_of_options] at unknown
    nomatch unknown

/-- A mean that is not a number is told of once: no comparison with it is drawn. -/
example : lenient.audit { Options.builtin with meanEnergyLoss := ⟨0x7FF8000000000000⟩ } =
    [⟨"meanEnergyLoss", .typeMismatch, "expected a number, found null", none⟩] := by rfl

end Settings
end BeamRun
