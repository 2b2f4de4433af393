import Mathlib.Data.List.Basic
import BeamRun.Loading
import BeamRun.Proofs.Validation.Spelling

/-! What the log is told of a verdict: which former names were understood, and then the verdict once more.
Defaults are inspected in silence. -/

namespace BeamRun

/-- A loop whose every step tells what is settled beforehand tells all of it, in the order of the loop. -/
theorem Logged.events_foldlM {α β : Type} {f : β → α → Logged β} {told : α → List Event}
    (step : ∀ b a, (f b a).events = told a) (b : β) (as : List α) :
    (as.foldlM f b).events = as.flatMap told := by
  induction as generalizing b with
  | nil => rfl
  | cons a as ih => rw [List.foldlM_cons, events_bind, step, ih, List.flatMap_cons]

namespace Payload

variable {p : Payload} {f : Field}

def formerName? (p : Payload) (f : Field) : Option String :=
  (p.lookup f).bind fun entry => if entry.1 ∈ f.formerNames then some entry.1 else none

theorem mem_formerNames_iff {key : String} {v : Json} (found : p.lookup f = some (key, v)) :
    key ∈ f.formerNames ↔ key ≠ f.name := by
  have distinct := List.nodup_cons.mp f.spellings_nodup
  constructor
  · rintro former rfl
    exact distinct.1 former
  · exact (List.mem_cons.mp (mem_spellings_of_lookup found)).resolve_left

/-- What is told of the former names in a payload, in catalogue order. -/
def formerNameEvents (p : Payload) : List Event :=
  Field.all.filterMap fun f => (p.formerName? f).map fun key =>
    ⟨.debug, .validation, "Accepted legacy option key",
      [("field", .text f.name), ("alias", .text key)]⟩

/-- A verdict on a payload, and everything that is told on the way to it. -/
inductive VerdictEvents (p : Payload) : Except OptionsFailure Options → List Event → Prop
  | unsoundDefaults (vs : Violations) :
    VerdictEvents p (.error (.unsoundDefaults vs))
      [⟨.error, .validation, "Rejecting invalid default simulation options",
        [("errors", .text vs.text)]⟩]
  | accepted (o : Options) :
    VerdictEvents p (.ok o)
      (p.formerNameEvents ++
        [⟨.debug, .validation, "Simulation options accepted", [("fields", .count p.entries.length)]⟩])
  | rejected (vs : Violations) :
    VerdictEvents p (.error (.rejected vs))
      (p.formerNameEvents ++
        [⟨.warn, .validation, "Simulation options rejected",
          [("error_count", .count vs.length), ("code", .text "VALIDATION_1000")]⟩])

/-- A verdict on a payload, what a check tells in addition, and what it comes to. -/
inductive CheckEvents (p : Payload) (context : Report.Context) (stamp : Report.Stamp) :
    Except OptionsFailure Options → List Event → Except Failure Checked → Prop
  | accepted (o : Options) :
    CheckEvents p context stamp (.ok o)
      [⟨.info, .commands, "Simulation options accepted", [("keys", .count p.entries.length)]⟩]
      (.ok (.accepted o))
  | rejected (vs : Violations) :
    CheckEvents p context stamp (.error (.rejected vs))
      [⟨.warn, .reporting, "Error report emitted",
        [("report_id", .text stamp.id.text), ("request_id", .text (context.requestId.getD "-")),
          ("submitted_by", .text (context.submittedBy.getD "-")),
          ("error_count", .count vs.length), ("errors", .text vs.toJson.text)]⟩]
      (.ok (.rejected ⟨stamp, context, vs⟩))
  | failed (failure : OptionsFailure) (other : ∀ vs, failure ≠ .rejected vs) :
    CheckEvents p context stamp (.error failure) [] (.error failure.failure)

theorem VerdictEvents.unique {verdict : Except OptionsFailure Options} {es es' : List Event}
    (told : p.VerdictEvents verdict es) (told' : p.VerdictEvents verdict es') : es = es' := by
  cases told <;> cases told' <;> rfl

theorem CheckEvents.unique {context : Report.Context} {stamp : Report.Stamp}
    {verdict : Except OptionsFailure Options} {es es' : List Event} {r r' : Except Failure Checked}
    (told : p.CheckEvents context stamp verdict es r)
    (told' : p.CheckEvents context stamp verdict es' r') : es = es' := by
  cases told with
  | accepted o => cases told'; rfl
  | rejected vs =>
    cases told' with
    | rejected => rfl
    | failed _ other => exact absurd rfl (other vs)
  | failed failure other =>
    cases told' with
    | rejected vs => exact absurd rfl (other vs)
    | failed => rfl

end Payload

namespace Settings

variable (s : Settings) (p : Payload) (defaults : Options)

/-- Step of the walk: a visit tells of the spelling alone, whatever becomes of the value. -/
theorem events_visit (w : Walk) (f : Field) :
    (s.visit p w f).events = ((p.formerName? f).map (Event.formerName f)).toList := by
  cases found : p.lookup f with
  | none => simp [visit, Payload.formerName?, found]
  | some entry =>
    rcases entry with ⟨key, v⟩
    simp only [visit, found, Payload.formerName?, Option.bind_some, Payload.mem_formerNames_iff found]
    cases w.merged.apply f v with
    | ok merged => split <;> rfl
    | error cause => split <;> rfl

theorem events_collect : (s.collect p defaults).events = p.formerNameEvents := by
  rw [collect, Logged.events_bind, Logged.events_pure, List.append_nil, walk,
    Logged.events_foldlM (s.events_visit p), Payload.formerNameEvents,
    List.filterMap_eq_flatMap_toList]
  rfl

/-- Complete options are spelled as the catalogue has it, so that nothing is told of them. -/
theorem events_inspect : (s.inspect defaults).events = [] := by
  have unchanged (f : Field) : (Payload.ofOptions defaults).formerName? f = none := by
    have distinct := List.nodup_cons.mp f.spellings_nodup
    rw [Payload.formerName?, Payload.lookup_of_options, Option.bind_some, if_neg distinct.1]
  rw [inspect, Logged.events_bind, Logged.events_pure, List.append_nil, events_collect,
    Payload.formerNameEvents, List.filterMap_eq_nil_iff]
  intro f _
  rw [unchanged, Option.map_none]

theorem verdictEvents_validate : p.VerdictEvents (s.judge p defaults) (s.validate p defaults).events := by
  rw [judge, validate, Logged.result_bind, Logged.events_bind, events_inspect, List.nil_append]
  -- First on what was found in the defaults, then on what was found in the payload.
  split
  · rw [Logged.result_bind, Logged.events_bind, events_collect]
    dsimp only
    split
    · exact .accepted _
    · exact .rejected _
  · exact .unsoundDefaults _

theorem checkEvents_check (context : Report.Context) (stamp : Report.Stamp) :
    ∃ added, (s.check p defaults context stamp).run.events =
        (s.validate p defaults).events ++ added ∧
      p.CheckEvents context stamp (s.judge p defaults) added
        (s.check p defaults context stamp).run.result := by
  rw [judge, check, Checked.ofVerdict]
  cases (s.validate p defaults).result with
  | ok o => exact ⟨_, rfl, .accepted o⟩
  | error failure =>
    cases failure with
    | rejected vs => exact ⟨_, rfl, .rejected vs⟩
    | _ =>
      refine ⟨[], (List.append_nil _).symm, .failed _ fun vs same => ?_⟩
      cases same

/-- The log tells what the verdict is. Unsound defaults are told of in one line, and in nothing else;
otherwise the former names come first, one line for each, and the verdict on the payload closes. A check
adds a line where the payload is accepted and the report where it is rejected. Inspecting options, as is
done with the defaults, adds nothing. -/
theorem log_tells_verdict (context : Report.Context) (stamp : Report.Stamp) :
    (s.inspect defaults).events = [] ∧
    ((∃ vs, s.judge p defaults = .error (.unsoundDefaults vs)) ↔ s.audit defaults ≠ []) ∧
    p.VerdictEvents (s.judge p defaults) (s.validate p defaults).events ∧
    ∃ added, (s.check p defaults context stamp).run.events =
        (s.validate p defaults).events ++ added ∧
      p.CheckEvents context stamp (s.judge p defaults) added
        (s.check p defaults context stamp).run.result := by
  refine ⟨s.events_inspect defaults, ?_, s.verdictEvents_validate p defaults,
    s.checkEvents_check p defaults context stamp⟩
  simp only [judge_eq_unsoundDefaults_iff, exists_and_left, exists_eq, and_true]

/-- A former name, and two keys that spell no field. -/
def threeKeys : Payload :=
  TextMap.ofList [("nuclearReactionsOn", .bool false), ("origin", .null), ("comment", .string "ok")]

def threeKeys.unrecognized (key : String) : Violation :=
  ⟨key, .unknownField, "is not a recognized simulation option", none⟩

open Report threeKeys in
/-- The same payload where unknown keys are let through, where they are refused, and over defaults that
do not pass. -/
theorem log_tells_verdict_threeKeys :
    lenient.judge threeKeys .builtin = .ok { Options.builtin with nuclearCorrectionOn := false } ∧
    (lenient.check threeKeys .builtin .empty ⟨⟨0⟩, ⟨0, 0⟩⟩).run.events =
      [⟨.debug, .validation, "Accepted legacy option key",
          [("field", .text "nuclearCorrectionOn"), ("alias", .text "nuclearReactionsOn")]⟩,
        ⟨.debug, .validation, "Simulation options accepted", [("fields", .count 3)]⟩,
        ⟨.info, .commands, "Simulation options accepted", [("keys", .count 3)]⟩] ∧
    (strict.check threeKeys .builtin (Context.empty.add "client" "form") ⟨⟨0⟩, ⟨0, 0⟩⟩).run.events =
      [⟨.debug, .validation, "Accepted legacy option key",
          [("field", .text "nuclearCorrectionOn"), ("alias", .text "nuclearReactionsOn")]⟩,
        ⟨.warn, .validation, "Simulation options rejected",
          [("error_count", .count 2), ("code", .text "VALIDATION_1000")]⟩,
        ⟨.warn, .reporting, "Error report emitted",
          [("report_id", .text "00000000-0000-0000-0000-000000000000"), ("request_id", .text "-"),
            ("submitted_by", .text "-"), ("error_count", .count 2),
            ("errors", .text
              ("[\x7b\"field\":\"comment\",\"kind\":\"UnknownField\"," ++
                "\"message\":\"is not a recognized simulation option\"\x7d," ++
                "\x7b\"field\":\"origin\",\"kind\":\"UnknownField\"," ++
                "\"message\":\"is not a recognized simulation option\"\x7d]"))]⟩] ∧
    (strict.check threeKeys .transportOff .empty ⟨⟨0⟩, ⟨0, 0⟩⟩).run.events =
      [⟨.error, .validation, "Rejecting invalid default simulation options",
          [("errors", .text "1 error: lowEnergyNeutronCutOff: must be >= 0 (got -1)")]⟩] := by
  have accepted : lenient.judge threeKeys .builtin =
      .ok { Options.builtin with nuclearCorrectionOn := false } := by decide +kernel
  have rejected : strict.judge threeKeys .builtin =
      .error (.rejected [unrecognized "comment", unrecognized "origin"]) := by decide +kernel
  have unsound : strict.judge threeKeys .transportOff =
      .error (.unsoundDefaults
        [⟨"lowEnergyNeutronCutOff", .domainViolation, "must be >= 0 (got -1)", none⟩]) := by
    decide +kernel
  refine ⟨accepted, ?_, ?_, ?_⟩
  · obtain ⟨-, -, verdict, added, events, check⟩ :=
      log_tells_verdict lenient threeKeys .builtin .empty ⟨⟨0⟩, ⟨0, 0⟩⟩
    rw [accepted] at verdict check
    rw [events, verdict.unique (.accepted _), check.unique (.accepted _)]
    decide +kernel
  · obtain ⟨-, -, verdict, added, events, check⟩ :=
      log_tells_verdict strict threeKeys .builtin (Context.empty.add "client" "form") ⟨⟨0⟩, ⟨0, 0⟩⟩
    rw [rejected] at verdict check
    rw [events, verdict.unique (.rejected _), check.unique (.rejected _)]
    decide +kernel
  · obtain ⟨-, -, verdict, added, events, check⟩ :=
      log_tells_verdict strict threeKeys .transportOff .empty ⟨⟨0⟩, ⟨0, 0⟩⟩
    rw [unsound] at verdict check
    have silent (vs : Violations) : OptionsFailure.unsoundDefaults
        [⟨"lowEnergyNeutronCutOff", .domainViolation, "must be >= 0 (got -1)", none⟩] ≠
          .rejected vs := nofun
    rw [events, verdict.unique (.unsoundDefaults _), check.unique (.failed _ silent)]
    decide +kernel

end Settings
end BeamRun
