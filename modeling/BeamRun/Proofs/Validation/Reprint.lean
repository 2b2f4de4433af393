import BeamRun.Proofs.Binary64.Accuracy
import BeamRun.Proofs.Json.Document
import BeamRun.Proofs.Payload
import BeamRun.Proofs.Validation.Audit
import BeamRun.Proofs.Validation.Defaults

/-! Options that are written as a document and read again: everything comes back as it was but the
energies, whose digits the reader rounds more than once. -/

namespace BeamRun

namespace Options

def documents (o : Options) : List String :=
  [o.toJson.text, o.toJson.text ++ "\n", o.toJson.pretty, o.toJson.pretty ++ "\n"]

def energies (o : Options) : List Binary64 :=
  [o.meanEnergyLoss, o.minEnergyLoss, o.lowEnergyNeutronCutOff]

def reread (o : Options) : Options :=
  { o with
    meanEnergyLoss := o.meanEnergyLoss.reread
    minEnergyLoss := o.minEnergyLoss.reread
    lowEnergyNeutronCutOff := o.lowEnergyNeutronCutOff.reread }

variable {o : Options}

theorem reread_eq_self_iff : o.reread = o ↔ ∀ x ∈ o.energies, x.reread = x := by
  cases o
  simp [reread, energies]

theorem flat_valueOf (o : Options) (f : Field) : (o.valueOf f).Within 0 := by
  have real (x : Binary64) : (Json.ofBinary64 x).Within 0 := by
    unfold Json.ofBinary64
    split <;> trivial
  cases f with
  | meanEnergyLoss => exact real _
  | minEnergyLoss => exact real _
  | lowEnergyNeutronCutOff => exact real _
  | _ => trivial

theorem reread_ofBinary64 {x : Binary64} (finite : x.isFinite = true) :
    (Json.ofBinary64 x).reread = .ofBinary64 x.reread := by
  rw [Json.ofBinary64, Json.ofBinary64, dif_pos finite, dif_pos (Binary64.isFinite_reread finite)]
  rfl

theorem reread_valueOf (finite : ∀ x ∈ o.energies, x.isFinite = true) (f : Field) :
    (o.valueOf f).reread = o.reread.valueOf f := by
  cases f with
  | meanEnergyLoss => exact reread_ofBinary64 (finite _ (.head _))
  | minEnergyLoss => exact reread_ofBinary64 (finite _ (.tail _ (.head _)))
  | lowEnergyNeutronCutOff => exact reread_ofBinary64 (finite _ (.tail _ (.tail _ (.head _))))
  | _ => rfl

theorem parse_of_documents (finite : ∀ x ∈ o.energies, x.isFinite = true) {text : String}
    (printed : text ∈ o.documents) : Payload.parse text = .ok (.ofOptions o.reread) := by
  have within : (Json.object (Field.all.map fun f => (f.name, o.valueOf f))).Within Json.depthLimit := by
    intro entry member
    obtain ⟨f, -, rfl⟩ := List.mem_map.mp member
    exact (flat_valueOf o f).of_zero _
  have entries : (Field.all.map fun f => (f.name, o.valueOf f)).map
      (fun entry => (entry.1, entry.2.reread)) = Field.all.map fun f => (f.name, o.reread.valueOf f) := by
    rw [List.map_map]
    refine List.map_congr_left fun f _ => ?_
    exact congrArg (f.name, ·) (reread_valueOf finite f)
  have written : text ∈ o.toJson.documents := printed
  rw [toJson_eq] at written
  rw [Payload.parse, Json.parse_document within written, Json.reread_object, entries]
  exact congrArg Except.ok (TextMap.ofList_ofList _)

end Options

namespace Settings

variable {s : Settings} {o defaults : Options}

/-- What is told of options whose losses stand in the wrong order. -/
def reversedLosses (o : Options) : Violation :=
  ⟨"minEnergyLoss", .crossFieldViolation,
    "must not exceed meanEnergyLoss (" ++ Decimal.plainText o.minEnergyLoss ++ " > " ++
      Decimal.plainText o.meanEnergyLoss ++ ")",
    some "meanEnergyLoss"⟩

/-- Of options that pass but for the order of their losses, an audit says no more than that. -/
theorem audit_of_losses (proper : ∀ f : Field, f.domain.Proper (o.get f))
    (tolerated : s.neutronCutoff.Tolerates o)
    (counts : o.numberOfRecordedParticles ≤ o.numberOfGeneratedParticles) :
    s.audit o =
      if o.minEnergyLoss ≤ o.meanEnergyLoss then []
      else [reversedLosses o] := by
  have silent (f : Field) : o.flaw? s.neutronCutoff f = none := by
    rw [Options.flaw_of_proper proper, if_neg]
    rintro ⟨-, applies, below⟩
    rcases tolerated with ⟨policy, off⟩ | nonnegative
    · rw [policy, off] at applies
      cases applies
    · exact below nonnegative
  have fields : (Field.all.filterMap fun f =>
      (o.flaw? s.neutronCutoff f).map (Defect.misfit f)) = [] := by
    simp [silent]
  have counted : o.pairFlaws s.neutronCutoff .numberOfRecordedParticles .numberOfGeneratedParticles
      (fun (recorded generated : UInt64) => generated < recorded) .countsReversed = [] :=
    Options.pairFlaws_eq_nil (UInt64.not_lt.mpr counts)
  have ordered := Options.losses_ordered_iff proper
  rw [audit_eq_flaws, Options.flaws, fields, counted, List.nil_append, List.append_nil]
  split
  · next losses =>
    rw [Options.pairFlaws_eq_nil (ordered.mpr losses)]
    rfl
  · next reversed =>
    have swapped : o.meanEnergyLoss < o.minEnergyLoss :=
      Decidable.not_not.mp (mt ordered.mp reversed)
    rw [Options.pairFlaws, if_pos ⟨silent _, silent _, swapped⟩]
    rfl

/-- Options that pass still pass when they are read again, unless their losses change order. -/
theorem audit_reread (sound : o.Sound s.neutronCutoff) :
    s.audit o.reread =
      if o.reread.minEnergyLoss ≤ o.reread.meanEnergyLoss then []
      else [reversedLosses o.reread] := by
  obtain ⟨proper, tolerated, -, counts⟩ := Options.sound_iff_proper.mp sound
  refine audit_of_losses (fun f => ?_) ?_ counts
  · cases f with
    | meanEnergyLoss =>
      exact ⟨Binary64.isFinite_reread sound.mean_finite,
        Binary64.zero_le_reread sound.mean_finite sound.mean_nonnegative⟩
    | minEnergyLoss =>
      exact ⟨Binary64.isFinite_reread sound.min_finite,
        Binary64.zero_le_reread sound.min_finite sound.min_nonnegative⟩
    | lowEnergyNeutronCutOff => exact Binary64.isFinite_reread sound.cutOff_finite
    | numberOfGeneratedParticles => exact sound.generated_positive
    | numberOfRecordedParticles => exact sound.recorded_positive
    | _ => trivial
  · exact tolerated.imp_right (Binary64.zero_le_reread sound.cutOff_finite)

theorem finite_of_sound {policy : NeutronCutoffPolicy} (sound : o.Sound policy) :
    ∀ x ∈ o.energies, x.isFinite = true := by
  intro x member
  simp only [Options.energies, List.mem_cons, List.not_mem_nil, or_false] at member
  rcases member with rfl | rfl | rfl
  · exact sound.mean_finite
  · exact sound.min_finite
  · exact sound.cutOff_finite

/-- A document of accepted options, read again and validated over any defaults that pass. Its entries
are those of the options, with each energy as the reader makes it from the digits: of the same sign,
and as near as a few roundings leave it. The verdict accepts these options, or reports the two losses
if they have changed order, and nothing else. It gives the options themselves exactly when every
energy is read as it was, and so whenever the energies have few digits. -/
theorem documents_reread (s : Settings) (p : Payload) (o base defaults : Options)
    (accepted : s.judge p base = .ok o) (clean : s.audit defaults = []) (text : String)
    (printed : text ∈ o.documents) :
    Payload.parse text = .ok (.ofOptions o.reread) ∧
      s.judge (.ofOptions o.reread) defaults =
        (if o.reread.minEnergyLoss ≤ o.reread.meanEnergyLoss then .ok o.reread
        else .error (.rejected
          [⟨"minEnergyLoss", .crossFieldViolation,
            "must not exceed meanEnergyLoss (" ++ Decimal.plainText o.reread.minEnergyLoss ++ " > " ++
              Decimal.plainText o.reread.meanEnergyLoss ++ ")",
            some "meanEnergyLoss"⟩])) ∧
      (s.judge (.ofOptions o.reread) defaults = .ok o ↔ ∀ x ∈ o.energies, x.reread = x) ∧
      (∀ x ∈ o.energies, x.Short → x.reread = x) ∧
      ∀ x ∈ o.energies, x.reread.isFinite = true ∧ x.reread.isNegative = x.isNegative ∧
        |x.reread.absolute - x.absolute| ≤ x.absolute * 2 ^ (-50 : ℤ) + 2 ^ (-1070 : ℤ) := by
  have sound := sound_of_judge accepted
  have finite := finite_of_sound sound
  have verdict : s.judge (.ofOptions o.reread) defaults =
      if o.reread.minEnergyLoss ≤ o.reread.meanEnergyLoss then .ok o.reread
      else .error (.rejected [reversedLosses o.reread]) := by
    rw [judge_ofOptions clean, audit_reread sound]
    by_cases ordered : o.reread.minEnergyLoss ≤ o.reread.meanEnergyLoss
    · simp only [if_pos ordered, if_true]
    · simp only [if_neg ordered, List.cons_ne_nil, if_false]
  refine ⟨Options.parse_of_documents finite printed, verdict, ?_, ?_, ?_⟩
  · rw [verdict, ← Options.reread_eq_self_iff]
    constructor
    · intro accepted
      split at accepted
      · exact Except.ok.inj accepted
      · cases accepted
    · intro same
      rw [same, if_pos sound.min_le_mean]
  · exact fun x member short => Binary64.reread_eq_self (finite x member) short
  · exact fun x member => ⟨Binary64.isFinite_reread (finite x member),
      Binary64.isNegative_reread (finite x member), Binary64.reread_accurate (finite x member)⟩

theorem documents_reread_transportOff :
    guarded.judge .transportOff .builtin = .ok .transportOff ∧ guarded.audit .builtin = [] ∧
      Options.transportOff.toJson.pretty ++ "\n" ∈ Options.transportOff.documents ∧
      (∀ x ∈ Options.transportOff.energies, x.Short) ∧
      Payload.parse (Options.transportOff.toJson.pretty ++ "\n") =
        .ok (.ofOptions Options.transportOff.reread) ∧
      guarded.judge (.ofOptions Options.transportOff.reread) .builtin = .ok .transportOff := by
  have accepted : guarded.judge .transportOff .builtin = .ok .transportOff := by decide +kernel
  have clean : guarded.audit .builtin = [] := by decide +kernel
  have printed : Options.transportOff.toJson.pretty ++ "\n" ∈ Options.transportOff.documents :=
    Json.pretty_line_mem_documents _
  have short : ∀ x ∈ Options.transportOff.energies, x.Short := by decide +kernel
  obtain ⟨parsed, -, same, exact, -⟩ :=
    documents_reread guarded _ _ _ .builtin accepted clean _ printed
  exact ⟨accepted, clean, printed, short, parsed, same.mpr fun x member => exact x member (short x member)⟩

/-- Two losses next to each other, of which the reader makes the smaller one greater than the other. -/
def narrow : Options :=
  { Options.builtin with meanEnergyLoss := ⟨0x3e9ff93d6d323b3d⟩, minEnergyLoss := ⟨0x3e9ff93d6d323b3c⟩ }

/-- Accepted options whose document is refused by the settings that accepted them. -/
theorem narrow_document_refused :
    lenient.judge (.ofOptions narrow) .builtin = .ok narrow ∧ lenient.audit .builtin = [] ∧
      ∃ p, Payload.parse narrow.toJson.text = .ok p ∧
        lenient.judge p .builtin =
          .error (.rejected
            [⟨"minEnergyLoss", .crossFieldViolation,
              "must not exceed meanEnergyLoss (0.00000047644367135665574 > 0.0000004764436713566557)",
              some "meanEnergyLoss"⟩]) := by
  have accepted : lenient.judge (.ofOptions narrow) .builtin = .ok narrow := by decide +kernel
  have clean : lenient.audit .builtin = [] := by decide +kernel
  have parsed : Payload.parse narrow.toJson.text = .ok (.ofOptions narrow.reread) :=
    Options.parse_of_documents (finite_of_sound (sound_of_judge accepted)) (.head _)
  exact ⟨accepted, clean, _, parsed, by decide +kernel⟩

end Settings

end BeamRun
