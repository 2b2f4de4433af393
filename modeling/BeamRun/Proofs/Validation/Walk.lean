import BeamRun.Proofs.Catalogue
import BeamRun.Validation

namespace BeamRun

namespace Payload

def misfit? (p : Payload) (f : Field) : Option Misfit :=
  (p.lookup f).bind fun entry =>
    match f.read entry.2 with
    | .ok _ => none
    | .error cause => some cause

/-- The payload's value where it has a fitting one, the default's otherwise. -/
def effective (p : Payload) (defaults : Options) (f : Field) : f.Value :=
  match p.lookup f with
  | none => defaults.get f
  | some (_, v) =>
    match f.read v with
    | .ok x => x
    | .error _ => defaults.get f

def merged (p : Payload) (defaults : Options) : Options := Options.build (p.effective defaults)

theorem get_merged (p : Payload) (defaults : Options) (f : Field) :
    (p.merged defaults).get f = p.effective defaults f :=
  Options.get_build _ f

end Payload

namespace Settings

variable (s : Settings) (p : Payload) (defaults : Options)

def judgesCutOff : Bool :=
  s.neutronCutoff.applies
    ((p.misfit? .fastNeutronTransportOn).isSome || (p.merged defaults).fastNeutronTransportOn)

def cutOffMisfit? : Option Misfit :=
  if s.judgesCutOff p defaults ∧ ¬ Binary64.zero ≤ (p.merged defaults).lowEnergyNeutronCutOff then
    some (.negative (p.merged defaults).lowEnergyNeutronCutOff)
  else none

def fieldMisfit? (f : Field) : Option Misfit :=
  (p.misfit? f).or (if f = .lowEnergyNeutronCutOff then s.cutOffMisfit? p defaults else none)

def fieldDefect? (f : Field) : Option Defect := (s.fieldMisfit? p defaults f).map (Defect.misfit f)

def pairDefects (smaller greater : Field) (reversed : smaller.Value → greater.Value → Prop)
    [∀ x y, Decidable (reversed x y)] (defect : smaller.Value → greater.Value → Defect) :
    List Defect :=
  if s.fieldMisfit? p defaults smaller = none ∧ s.fieldMisfit? p defaults greater = none ∧
      reversed ((p.merged defaults).get smaller) ((p.merged defaults).get greater) then
    [defect ((p.merged defaults).get smaller) ((p.merged defaults).get greater)]
  else []

def lossDefects : List Defect :=
  s.pairDefects p defaults .minEnergyLoss .meanEnergyLoss
    (fun (minimum mean : Binary64) => mean < minimum) .lossesReversed

def countDefects : List Defect :=
  s.pairDefects p defaults .numberOfRecordedParticles .numberOfGeneratedParticles
    (fun (recorded generated : UInt64) => generated < recorded) .countsReversed

def defects : List Defect :=
  Field.all.filterMap (s.fieldDefect? p defaults) ++ s.unknownDefects p ++
    s.lossDefects p defaults ++ s.countDefects p defaults

variable {s p defaults} in
/-- Keys are listed by the part of the report that is theirs, and by no other. -/
theorem unknown_mem_defects_iff {key : String} :
    .unknown key ∈ s.defects p defaults ↔ s.unknownKeys = .reject ∧ key ∈ p.unknownKeys := by
  have fields : .unknown key ∉ Field.all.filterMap (s.fieldDefect? p defaults) := by
    simp [fieldDefect?]
  have losses : .unknown key ∉ s.lossDefects p defaults := by
    unfold lossDefects pairDefects
    split <;> simp
  have counts : .unknown key ∉ s.countDefects p defaults := by
    unfold countDefects pairDefects
    split <;> simp
  simp only [defects, List.mem_append, fields, losses, counts, or_false, false_or]
  cases policy : s.unknownKeys <;> simp [unknownDefects, policy]

end Settings

/-- A list of fields that can follow `seen`: each comes once, and the flag before the cut-off, whose
check depends on it. -/
def Field.Orderly (seen : List Field) : List Field → Prop
  | [] => True
  | f :: rest =>
    f ∉ seen ∧ (f = .lowEnergyNeutronCutOff → .fastNeutronTransportOn ∈ seen) ∧
      Orderly (seen ++ [f]) rest

theorem Field.all_orderly : Field.Orderly [] Field.all := by
  simp [Field.all, Field.Orderly]

/-- The walk has seen these fields, and stands where their verdicts put it. -/
structure Walk.Reflects (s : Settings) (p : Payload) (defaults : Options) (seen : List Field)
    (w : Walk) : Prop where
  merged (f : Field) :
    w.merged.get f = if f ∈ seen then p.effective defaults f else defaults.get f
  defects : w.defects = seen.filterMap (s.fieldDefect? p defaults)
  failed (f : Field) : f ∈ w.failed ↔ f ∈ seen ∧ s.fieldMisfit? p defaults f ≠ none

namespace Walk

variable {s : Settings} {p : Payload} {defaults : Options} {seen : List Field} {w : Walk}

theorem start_reflects : Reflects s p defaults [] (start defaults) :=
  ⟨fun _ => rfl, rfl, fun _ => by simp [start]⟩

/-- One field more: its value is put in place, and its cause, should there be one, is recorded. -/
def extend (w : Walk) (f : Field) (merged : Options) : Option Misfit → Walk
  | none => { w with merged := merged }
  | some cause => fail { w with merged := merged } f cause

theorem extend_reflects (h : Reflects s p defaults seen w) {f : Field} {merged : Options}
    (fresh : f ∉ seen) (here : merged.get f = p.effective defaults f)
    (elsewhere : ∀ g ≠ f, merged.get g = w.merged.get g) :
    Reflects s p defaults (seen ++ [f]) (w.extend f merged (s.fieldMisfit? p defaults f)) := by
  have placed (g : Field) :
      merged.get g = if g ∈ seen ++ [f] then p.effective defaults g else defaults.get g := by
    by_cases same : g = f
    · subst same
      simp [here]
    · rw [elsewhere g same, h.merged g]
      simp [same]
  cases judged : s.fieldMisfit? p defaults f with
  | none =>
    refine ⟨placed, ?_, fun g => ?_⟩
    · simp [extend, h.defects, Settings.fieldDefect?, judged]
    · by_cases same : g = f
      · subst same
        simp [extend, h.failed, fresh, judged]
      · simp [extend, h.failed, same]
  | some cause =>
    refine ⟨placed, ?_, fun g => ?_⟩
    · simp [extend, fail, h.defects, Settings.fieldDefect?, judged]
    · by_cases same : g = f
      · subst same
        simp [extend, fail, judged]
      · simp [extend, fail, h.failed, same]

theorem applies_fastTransport (h : Reflects s p defaults seen w)
    (flagSeen : .fastNeutronTransportOn ∈ seen) :
    s.neutronCutoff.applies w.fastTransport = s.judgesCutOff p defaults := by
  have value : w.merged.fastNeutronTransportOn = (p.merged defaults).fastNeutronTransportOn := by
    have placed := h.merged .fastNeutronTransportOn
    rwa [if_pos flagSeen, ← p.get_merged] at placed
  have failed : w.failed.contains .fastNeutronTransportOn =
      (p.misfit? .fastNeutronTransportOn).isSome := by
    rw [Bool.eq_iff_iff, List.contains_iff_mem, h.failed, Option.isSome_iff_ne_none]
    simp [flagSeen, Settings.fieldMisfit?]
  rw [fastTransport, value, failed, Settings.judgesCutOff]

theorem settle_eq (h : Reflects s p defaults seen w) {f : Field} {merged : Options}
    (flagFirst : f = .lowEnergyNeutronCutOff → .fastNeutronTransportOn ∈ seen)
    (fits : p.misfit? f = none) (here : merged.get f = p.effective defaults f)
    (elsewhere : ∀ g ≠ f, merged.get g = w.merged.get g) :
    s.settle { w with merged := merged } f =
      w.extend f merged (s.fieldMisfit? p defaults f) := by
  by_cases cutOff : f = .lowEnergyNeutronCutOff
  · subst cutOff
    have flag : merged.fastNeutronTransportOn = w.merged.fastNeutronTransportOn :=
      elsewhere .fastNeutronTransportOn (by decide)
    have transport : fastTransport { w with merged := merged } = w.fastTransport := by
      rw [fastTransport, fastTransport, flag]
    have value : merged.lowEnergyNeutronCutOff = (p.merged defaults).lowEnergyNeutronCutOff :=
      here
    have misfit : s.fieldMisfit? p defaults .lowEnergyNeutronCutOff =
        s.cutOffMisfit? p defaults := by
      simp [Settings.fieldMisfit?, fits]
    rw [misfit]
    simp only [Settings.settle, if_true, Settings.checkCutOff, Settings.cutOffMisfit?, transport,
      applies_fastTransport h (flagFirst rfl), value]
    by_cases judged :
        s.judgesCutOff p defaults ∧ ¬ Binary64.zero ≤ (p.merged defaults).lowEnergyNeutronCutOff
    · simp only [if_pos judged, extend]
    · simp only [if_neg judged, extend]
  · simp [Settings.settle, Settings.fieldMisfit?, extend, cutOff, fits]

/-- Step of the walk: what one visit does depends on the payload, the defaults and the field alone. -/
theorem visit_reflects (h : Reflects s p defaults seen w) {f : Field} (fresh : f ∉ seen)
    (flagFirst : f = .lowEnergyNeutronCutOff → .fastNeutronTransportOn ∈ seen) :
    Reflects s p defaults (seen ++ [f]) (s.visit p w f).result := by
  have untouched : w.merged.get f = defaults.get f := by rw [h.merged, if_neg fresh]
  cases found : p.lookup f with
  | none =>
    have here : w.merged.get f = p.effective defaults f := by
      simp [Payload.effective, found, untouched]
    have fits : p.misfit? f = none := by simp [Payload.misfit?, found]
    have result : (s.visit p w f).result = s.settle w f := by simp [Settings.visit, found]
    rw [result, settle_eq h flagFirst fits here fun _ _ => rfl]
    exact extend_reflects h fresh here fun _ _ => rfl
  | some entry =>
    rcases entry with ⟨key, v⟩
    cases read : f.read v with
    | ok x =>
      have here : (w.merged.set f x).get f = p.effective defaults f := by
        simp [Payload.effective, found, read]
      have elsewhere : ∀ g ≠ f, (w.merged.set f x).get g = w.merged.get g :=
        fun g other => Options.get_set_of_ne _ x other
      have fits : p.misfit? f = none := by simp [Payload.misfit?, found, read]
      have result : (s.visit p w f).result =
          s.settle { w with merged := w.merged.set f x } f := by
        simp only [Settings.visit, found, Options.apply, read, Except.map]
        split <;> rfl
      rw [result, settle_eq h flagFirst fits here elsewhere]
      exact extend_reflects h fresh here elsewhere
    | error cause =>
      have here : w.merged.get f = p.effective defaults f := by
        simp [Payload.effective, found, read, untouched]
      have misfit : s.fieldMisfit? p defaults f = some cause := by
        simp [Settings.fieldMisfit?, Payload.misfit?, found, read]
      have result : (s.visit p w f).result = w.extend f w.merged (some cause) := by
        simp only [Settings.visit, found, Options.apply, read, Except.map]
        split <;> rfl
      rw [result, ← misfit]
      exact extend_reflects h fresh here fun _ _ => rfl

/-- Run of the walk, over any list of fields that can follow those already seen. -/
theorem foldl_visit_reflects (h : Reflects s p defaults seen w) {fields : List Field}
    (orderly : Field.Orderly seen fields) :
    Reflects s p defaults (seen ++ fields)
      (fields.foldl (fun w f => (s.visit p w f).result) w) := by
  induction fields generalizing seen w with
  | nil => simpa using h
  | cons f rest ih =>
    rcases orderly with ⟨fresh, flagFirst, remaining⟩
    have extended := ih (visit_reflects h fresh flagFirst) remaining
    rwa [List.append_assoc, List.singleton_append] at extended

theorem walk_reflects : Reflects s p defaults Field.all (s.walk p defaults).result := by
  rw [Settings.walk, Logged.result_foldlM]
  exact foldl_visit_reflects start_reflects Field.all_orderly

end Walk

namespace Settings

variable (s : Settings) (p : Payload) (defaults : Options)

theorem collect_result :
    (s.collect p defaults).result = (p.merged defaults, s.defects p defaults) := by
  have walked : Walk.Reflects s p defaults Field.all (s.walk p defaults).result :=
    Walk.walk_reflects
  generalize reached : (s.walk p defaults).result = w at walked
  have merged : w.merged = p.merged defaults := by
    apply Options.ext_get
    intro f
    rw [walked.merged, if_pos f.mem_all, p.get_merged]
  have failed (f : Field) : f ∈ w.failed ↔ s.fieldMisfit? p defaults f ≠ none := by
    rw [walked.failed]
    simp [f.mem_all]
  have fits (f : Field) : w.fits f = true ↔ s.fieldMisfit? p defaults f = none := by
    simp [Walk.fits, failed]
  have losses : w.lossDefects = s.lossDefects p defaults := by
    simp only [Walk.lossDefects, lossDefects, Walk.pairDefects, pairDefects, fits, merged]
  have counts : w.countDefects = s.countDefects p defaults := by
    simp only [Walk.countDefects, countDefects, Walk.pairDefects, pairDefects, fits, merged]
  simp [collect, reached, defects, walked.defects, merged, losses, counts]

theorem audit_eq (o : Options) :
    s.audit o = (s.defects (.ofOptions o) o).map Defect.violation := by
  simp [audit, inspect, collect_result]

theorem judge_eq :
    s.judge p defaults =
      if s.audit defaults = [] then
        if s.defects p defaults = [] then .ok (p.merged defaults)
        else .error (.rejected ((s.defects p defaults).map Defect.violation))
      else .error (.unsoundDefaults (s.audit defaults)) := by
  have inspected : (s.inspect defaults).result = s.audit defaults := by rw [audit]
  rw [judge, validate, Logged.result_bind, inspected]
  by_cases clean : s.audit defaults = []
  · by_cases sound : s.defects p defaults = []
    · simp [clean, sound, collect_result]
    · simp [clean, sound, collect_result]
  · simp [clean]

theorem judge_eq_ok_iff (m : Options) :
    s.judge p defaults = .ok m ↔
      s.audit defaults = [] ∧ s.defects p defaults = [] ∧ m = p.merged defaults := by
  rw [judge_eq]
  split
  · next clean =>
    split
    · next sound => simp [clean, sound, eq_comm]
    · next sound => simp [sound]
  · next clean => simp [clean]

theorem judge_eq_rejected_iff (vs : Violations) :
    s.judge p defaults = .error (.rejected vs) ↔
      s.audit defaults = [] ∧ s.defects p defaults ≠ [] ∧
        vs = (s.defects p defaults).map Defect.violation := by
  rw [judge_eq]
  split
  · next clean =>
    split
    · next sound => simp [sound]
    · next sound => simp [clean, sound, eq_comm]
  · next clean => simp [clean]

theorem judge_eq_unsoundDefaults_iff (vs : Violations) :
    s.judge p defaults = .error (.unsoundDefaults vs) ↔
      s.audit defaults ≠ [] ∧ vs = s.audit defaults := by
  rw [judge_eq]
  split
  · next clean =>
    split
    · simp [clean]
    · simp [clean]
  · next clean => simp [clean, eq_comm]

end Settings
end BeamRun
