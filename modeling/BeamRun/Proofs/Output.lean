import BeamRun.Proofs.Listing
import BeamRun.Proofs.Outcomes
import BeamRun.Proofs.Validation.Reprint

/-! What a command writes: one whole document when it ends well, which is read for what it is, and nothing
when it fails. -/

namespace BeamRun

namespace Attempt

variable {α β : Type}

theorem ending_eq_ok_iff {x : Attempt α} {a : α} : ending x = .ok a ↔ x.run.result = .ok a :=
  mapError_eq_ok_iff

theorem result_pure_eq_ok_iff {a b : α} : (pure a : Attempt α).run.result = .ok b ↔ a = b :=
  iff_of_eq (Except.ok.injEq a b)

theorem result_bind_eq_ok_iff {x : Attempt α} {f : α → Attempt β} {b : β} :
    (x >>= f).run.result = .ok b ↔ ∃ a, x.run.result = .ok a ∧ (f a).run.result = .ok b := by
  constructor
  · intro done
    have opened : (x >>= f).run.result = (ExceptT.bindCont f x.run.result).result := rfl
    rw [opened] at done
    cases first : x.run.result with
    | error e =>
      rw [first] at done
      cases done
    | ok a =>
      rw [first] at done
      exact ⟨a, rfl, done⟩
  · rintro ⟨a, first, rest⟩
    rw [result_bind_of_ok first, rest]

end Attempt

namespace World

variable {w : World} {input : Input}

/-- What comes of an input once everything is read: accepted options, or the report on it. -/
inductive Concludes (w : World) (input : Input) : Checked → Prop
  | accepted {x : Materials} {m : Options} (loads : w.Loads input (.ok x))
      (verdict : x.verdict = .ok m) : Concludes w input (.accepted m)
  | rejected {x : Materials} {vs : Violations} (loads : w.Loads input (.ok x))
      (verdict : x.verdict = .error (.rejected vs)) :
      Concludes w input (.rejected ⟨w.stamp, context input, vs⟩)

theorem prepare_eq_ok_iff {c : Checked} :
    (w.prepare input).run.result = .ok c ↔ w.Concludes input c := by
  constructor
  · intro prepared
    have ended := Attempt.ending_eq_ok_iff.mpr prepared
    obtain ⟨r, loads⟩ := w.exists_loads input
    cases r with
    | error kind =>
      rw [loads.ending_prepare_of_error] at ended
      cases ended
    | ok x =>
      rcases loads.verdict_cases with ⟨m, verdict⟩ | ⟨vs, verdict⟩
      · rw [loads.ending_prepare_of_accepted verdict] at ended
        cases ended
        exact .accepted loads verdict
      · rw [loads.ending_prepare_of_rejected verdict] at ended
        cases ended
        exact .rejected loads verdict
  · intro concludes
    rw [← Attempt.ending_eq_ok_iff]
    cases concludes with
    | accepted loads verdict => exact loads.ending_prepare_of_accepted verdict
    | rejected loads verdict => exact loads.ending_prepare_of_rejected verdict

/-- The document that a command leaves behind when it ends well. -/
inductive Shows (w : World) : Command → Outcome → String → Prop
  | optionsJson {input : Input} {o : Options} (checked : w.Concludes input (.accepted o)) :
      Shows w (.validate input .json) .accepted (o.toJson.pretty ++ "\n")
  | optionsText {input : Input} {o : Options} (checked : w.Concludes input (.accepted o)) :
      Shows w (.validate input .text) .accepted (Listing.options w.colored o)
  | reportJson {input : Input} {r : Report Violation} (checked : w.Concludes input (.rejected r)) :
      Shows w (.validate input .json) .rejected ((r.toJson Violation.toJson).pretty ++ "\n")
  | reportText {input : Input} {r : Report Violation} (checked : w.Concludes input (.rejected r)) :
      Shows w (.validate input .text) .rejected (Listing.rejection w.colored r)
  | cards {input : Input} {o : Options} {text : String} (checked : w.Concludes input (.accepted o))
      (fits : o.cards.result = .ok text) : Shows w (.cards input) .accepted text
  | cardsReport {input : Input} {r : Report Violation} (checked : w.Concludes input (.rejected r)) :
      Shows w (.cards input) .rejected (Listing.rejection w.colored r)
  | defaultsPretty : Shows w (.defaults true) .accepted (Options.builtin.toJson.pretty ++ "\n")
  | defaultsCompact : Shows w (.defaults false) .accepted (Options.builtin.toJson.text ++ "\n")

theorem result_cards_eq_ok_iff {o : Options} {text : String} :
    (ExceptT.mk ((·.mapError TooWide.failure) <$> o.cards) : Attempt String).run.result = .ok text ↔
      o.cards.result = .ok text :=
  mapError_eq_ok_iff

theorem Shows.document_eq {c : Command} {outcome : Outcome} {text : String}
    (shows : w.Shows c outcome text) : (w.document c).run.result = .ok (text, outcome) := by
  cases shows with
  | optionsJson checked => exact Attempt.result_bind_of_ok (prepare_eq_ok_iff.mpr checked) _
  | optionsText checked => exact Attempt.result_bind_of_ok (prepare_eq_ok_iff.mpr checked) _
  | reportJson checked => exact Attempt.result_bind_of_ok (prepare_eq_ok_iff.mpr checked) _
  | reportText checked => exact Attempt.result_bind_of_ok (prepare_eq_ok_iff.mpr checked) _
  | cardsReport checked => exact Attempt.result_bind_of_ok (prepare_eq_ok_iff.mpr checked) _
  | cards checked fits =>
    rw [document, Attempt.result_bind_of_ok (prepare_eq_ok_iff.mpr checked)]
    exact Attempt.result_bind_of_ok (result_cards_eq_ok_iff.mpr fits) _
  | defaultsPretty => rfl
  | defaultsCompact => rfl

theorem shows_of_document {c : Command} {outcome : Outcome} {text : String}
    (done : (w.document c).run.result = .ok (text, outcome)) : w.Shows c outcome text := by
  cases c with
  | defaults pretty =>
    obtain ⟨rfl, rfl⟩ := Prod.mk.inj (Attempt.result_pure_eq_ok_iff.mp done)
    cases pretty with
    | true => exact .defaultsPretty
    | false => exact .defaultsCompact
  | validate input format =>
    obtain ⟨c, prepared, told⟩ := Attempt.result_bind_eq_ok_iff.mp done
    have checked := prepare_eq_ok_iff.mp prepared
    cases c with
    | accepted o =>
      obtain ⟨rfl, rfl⟩ := Prod.mk.inj (Attempt.result_pure_eq_ok_iff.mp told)
      cases format with
      | json => exact .optionsJson checked
      | text => exact .optionsText checked
    | rejected r =>
      obtain ⟨rfl, rfl⟩ := Prod.mk.inj (Attempt.result_pure_eq_ok_iff.mp told)
      cases format with
      | json => exact .reportJson checked
      | text => exact .reportText checked
  | cards input =>
    obtain ⟨c, prepared, told⟩ := Attempt.result_bind_eq_ok_iff.mp done
    have checked := prepare_eq_ok_iff.mp prepared
    cases c with
    | rejected r =>
      obtain ⟨rfl, rfl⟩ := Prod.mk.inj (Attempt.result_pure_eq_ok_iff.mp told)
      exact .cardsReport checked
    | accepted o =>
      obtain ⟨serialized, fits, same⟩ := Attempt.result_bind_eq_ok_iff.mp told
      obtain ⟨rfl, rfl⟩ := Prod.mk.inj (Attempt.result_pure_eq_ok_iff.mp same)
      exact .cards checked (result_cards_eq_ok_iff.mp fits)

theorem output_of_error {c : Command} {f : Failure} (failed : (w.run c).result.result = .error f) :
    (w.run c).result.output = "" := by
  rw [run_eq] at failed ⊢
  cases done : (w.document c).run.result with
  | error _ => rfl
  | ok whole =>
    rw [done] at failed
    cases failed

theorem run_eq_ok_iff {c : Command} {outcome : Outcome} {text : String} :
    (w.run c).result = ⟨text, .ok outcome⟩ ↔ w.Shows c outcome text := by
  rw [run_eq]
  constructor
  · intro finished
    cases done : (w.document c).run.result with
    | error f =>
      rw [done] at finished
      cases finished
    | ok whole =>
      rw [done] at finished
      cases finished
      exact shows_of_document done
  · intro shows
    rw [shows.document_eq]

/-- Whatever was written before a run stays in front of what it writes. -/
theorem result_after (w : World) (c : Command) (written : String) :
    ((w.perform c).after written).result =
      ((w.run c).result.result, written ++ (w.run c).result.output) := by
  rw [w.delivers_document c written, run_eq]
  cases (w.document c).run.result with
  | error f => simp only [String.append_empty]
  | ok whole => rfl

section Documents

def violationEntries (v : Violation) : List (String × Json) :=
  [("field", .string v.field), ("kind", .string v.kind.name), ("message", .string v.message)] ++
    v.related.toList.map fun field => ("relatedField", .string field)

def senderEntries (input : Input) : List (String × Json) :=
  input.requestId.toList.map (fun s => ("requestId", .string s)) ++
    input.submittedBy.toList.map (fun s => ("submittedBy", .string s))

def contextEntries (input : Input) : List (String × Json) :=
  ("additional", .object [("source", .string input.file)]) :: senderEntries input

/-- The report on an input as it is read in its document: keys stand in ascending order. -/
def reportEntries (w : World) (input : Input) (vs : Violations) : List (String × Json) :=
  [("context", .object (contextEntries input)),
    ("errors", .array (vs.map fun v => .object (violationEntries v))),
    ("reportId", .string w.stamp.id.text),
    ("timestamp", .string w.stamp.time.text)]

theorem reread_violation (v : Violation) : v.toJson.reread = .object (violationEntries v) := by
  have strings : (violationEntries v).map (fun entry => (entry.1, entry.2.reread)) =
      violationEntries v := by
    simp [violationEntries, Json.reread]
  have ascending : ((violationEntries v).map (·.1)).Pairwise (· < ·) := by
    unfold violationEntries
    cases v.related with
    | none => exact (by decide +kernel : ["field", "kind", "message"].Pairwise (· < ·))
    | some field =>
      exact (by decide +kernel : ["field", "kind", "message", "relatedField"].Pairwise (· < ·))
  rw [show v.toJson = .object (violationEntries v) from rfl, Json.reread_object, strings,
    TextMap.entries_ofList_eq (List.Perm.refl _) ascending]

theorem reread_context (input : Input) :
    (context input).toJson.reread = .object (contextEntries input) := by
  have written : (context input).toJson =
      .object (senderEntries input ++ [("additional", .object [("source", .string input.file)])]) := rfl
  have given (key : String) (s : Option String) :
      (s.toList.map fun s => (key, Json.string s)).map (fun entry => (entry.1, entry.2.reread)) =
        s.toList.map fun s => (key, Json.string s) := by
    rw [List.map_map]
    rfl
  have strings : (senderEntries input).map (fun entry => (entry.1, entry.2.reread)) =
      senderEntries input := by
    rw [senderEntries, List.map_append, given, given]
  have additional : (Json.object [("source", .string input.file)]).reread =
      .object [("source", .string input.file)] := rfl
  have ascending : ((contextEntries input).map (·.1)).Pairwise (· < ·) := by
    rcases input with ⟨file, defaults, settings, submittedBy, requestId⟩
    cases requestId <;> cases submittedBy
    · exact (by decide +kernel : ["additional"].Pairwise (· < ·))
    · exact (by decide +kernel : ["additional", "submittedBy"].Pairwise (· < ·))
    · exact (by decide +kernel : ["additional", "requestId"].Pairwise (· < ·))
    · exact (by decide +kernel : ["additional", "requestId", "submittedBy"].Pairwise (· < ·))
  rw [written, Json.reread_object, List.map_append, strings, List.map_singleton, additional]
  exact congrArg Json.object (TextMap.entries_ofList_eq List.perm_append_comm ascending)

theorem reread_report (w : World) (input : Input) (vs : Violations) :
    (Report.toJson Violation.toJson ⟨w.stamp, context input, vs⟩).reread =
      .object (w.reportEntries input vs) := by
  have errors : (Json.array (vs.map Violation.toJson)).reread =
      .array (vs.map fun v => .object (violationEntries v)) := by
    rw [Json.reread_array, List.map_map]
    exact congrArg Json.array (List.map_congr_left fun v _ => reread_violation v)
  have ascending : ((w.reportEntries input vs).map (·.1)).Pairwise (· < ·) :=
    (by decide +kernel : ["context", "errors", "reportId", "timestamp"].Pairwise (· < ·))
  have perm : [("reportId", Json.string w.stamp.id.text), ("timestamp", .string w.stamp.time.text),
      ("context", .object (contextEntries input)),
      ("errors", .array (vs.map fun v => .object (violationEntries v)))].Perm
        (w.reportEntries input vs) :=
    @List.perm_append_comm _ [_, _] [_, _]
  rw [Report.toJson, Json.reread_object]
  simp only [List.map_cons, List.map_nil]
  rw [reread_context, errors]
  exact congrArg Json.object (TextMap.entries_ofList_eq perm ascending)

theorem within_violation (v : Violation) (depth : Nat) : v.toJson.Within (depth + 1) := by
  intro entry member
  refine Json.Within.of_zero ?_ depth
  simp only [List.mem_append, List.mem_cons, List.not_mem_nil, or_false, List.mem_map] at member
  rcases member with (rfl | rfl | rfl) | ⟨field, -, rfl⟩ <;> trivial

theorem within_context (c : Report.Context) (depth : Nat) : c.toJson.Within (depth + 2) := by
  intro entry member
  simp only [List.mem_append, List.mem_map] at member
  rcases member with (⟨s, -, rfl⟩ | ⟨s, -, rfl⟩) | member
  · trivial
  · trivial
  · split at member
    · cases member
    · rw [List.mem_singleton.mp member]
      intro entry member
      obtain ⟨e, -, rfl⟩ := List.mem_map.mp member
      exact (show (Json.string e.2).Within 0 from trivial).of_zero depth

theorem within_report (r : Report Violation) : (r.toJson Violation.toJson).Within Json.depthLimit := by
  intro entry member
  simp only [List.mem_cons, List.not_mem_nil, or_false] at member
  rcases member with rfl | rfl | rfl | rfl
  · trivial
  · trivial
  · exact within_context r.context 124
  · intro v member
    obtain ⟨violation, -, rfl⟩ := List.mem_map.mp member
    exact within_violation violation 124

theorem parse_report {input : Input} {vs : Violations} :
    Json.parse ((Report.toJson Violation.toJson ⟨w.stamp, context input, vs⟩).pretty ++ "\n") =
      .ok (.object (w.reportEntries input vs)) := by
  rw [← reread_report]
  exact Json.parse_document (within_report _) (Json.pretty_line_mem_documents _)

theorem finite_of_concludes {o : Options} (checked : w.Concludes input (.accepted o)) :
    ∀ x ∈ o.energies, x.isFinite = true := by
  cases checked with
  | accepted _ verdict => exact Settings.finite_of_sound (Settings.sound_of_judge verdict)

/-- What a document tells those who read it. -/
inductive Tells (w : World) : Command → Outcome → String → Prop
  | optionsJson {input : Input} {o : Options} {text : String}
      (checked : w.Concludes input (.accepted o))
      (parsed : Payload.parse text = .ok (.ofOptions o.reread)) :
      Tells w (.validate input .json) .accepted text
  | optionsText {input : Input} {o : Options} {text : String}
      (checked : w.Concludes input (.accepted o))
      (lines : Text.pieces '\n' text =
        Listing.framed w.colored "1;32" "Simulation options accepted" ::
          Field.all.map (Listing.optionLine o) ++ [""]) :
      Tells w (.validate input .text) .accepted text
  | reportJson {input : Input} {vs : Violations} {text : String}
      (checked : w.Concludes input (.rejected ⟨w.stamp, context input, vs⟩))
      (parsed : Json.parse text = .ok (.object (w.reportEntries input vs))) :
      Tells w (.validate input .json) .rejected text
  | reportText {c : Command} {input : Input} {vs : Violations} {text : String}
      (asked : c = .validate input .text ∨ c = .cards input)
      (checked : w.Concludes input (.rejected ⟨w.stamp, context input, vs⟩))
      (told : (w.colored = true → ∀ v ∈ vs, '\x1b' ∉ v.field.toList) →
        text = Listing.rejectionText w.colored ⟨w.stamp, context input, vs⟩) :
      Tells w c .rejected text
  | cards {input : Input} {o : Options} {text : String} (checked : w.Concludes input (.accepted o))
      (ruled : Card.Ruled text) (read : Card.read? text = some o.reading) :
      Tells w (.cards input) .accepted text
  | defaults {pretty : Bool} {text : String} (parsed : Payload.parse text = .ok (.ofOptions .builtin)) :
      Tells w (.defaults pretty) .accepted text

theorem parse_builtin {text : String} (written : text ∈ Options.builtin.documents) :
    Payload.parse text = .ok (.ofOptions .builtin) := by
  have finite : ∀ x ∈ Options.builtin.energies, x.isFinite = true := by decide +kernel
  have same : Options.builtin.reread = .builtin :=
    Options.reread_eq_self_iff.mpr (by decide +kernel)
  rw [Options.parse_of_documents finite written, same]

theorem tells_rejection {c : Command} {r : Report Violation}
    (asked : c = .validate input .text ∨ c = .cards input) (checked : w.Concludes input (.rejected r)) :
    w.Tells c .rejected (Listing.rejection w.colored r) := by
  cases checked with
  | rejected loads verdict =>
    exact .reportText asked (.rejected loads verdict)
      fun plain => Listing.rejection_eq_rejectionText plain

theorem Shows.tells {c : Command} {outcome : Outcome} {text : String} (shows : w.Shows c outcome text) :
    w.Tells c outcome text := by
  cases shows with
  | optionsJson checked =>
    exact .optionsJson checked
      (Options.parse_of_documents (finite_of_concludes checked) (Json.pretty_line_mem_documents _))
  | optionsText checked => exact .optionsText checked (Listing.pieces_options _ _)
  | reportJson checked =>
    cases checked with
    | rejected loads verdict => exact .reportJson (.rejected loads verdict) parse_report
  | reportText checked => exact tells_rejection (.inl rfl) checked
  | cardsReport checked => exact tells_rejection (.inr rfl) checked
  | cards checked fits =>
    obtain ⟨fit, rfl⟩ := Options.cards_result_eq_ok_iff.mp fits
    exact .cards checked (Card.ruled_cardText fit) (Card.read_written fit)
  | defaultsPretty => exact .defaults (parse_builtin (Json.pretty_line_mem_documents _))
  | defaultsCompact => exact .defaults (parse_builtin (Json.text_line_mem_documents _))

end Documents

/-- A run that fails has written nothing, and one that ends well has written one document, whole, which is
read for what it is. Both commands on an input take what they show from the same conclusion: the cards are
those of the options that are shown as accepted, and a rejection is told in the same words. -/
theorem output_whole_or_none (w : World) :
    (∀ c f, (w.run c).result.result = .error f → (w.run c).result.output = "") ∧
    (∀ c outcome text, (w.run c).result = ⟨text, .ok outcome⟩ ↔ w.Shows c outcome text) ∧
    (∀ c outcome text, w.Shows c outcome text → w.Tells c outcome text) ∧
    (∀ input text, w.Shows (.cards input) .accepted text →
      ∃ o : Options, o.cards.result = .ok text ∧
        w.Shows (.validate input .json) .accepted (o.toJson.pretty ++ "\n") ∧
        w.Shows (.validate input .text) .accepted (Listing.options w.colored o)) ∧
    (∀ input text,
      w.Shows (.cards input) .rejected text ↔ w.Shows (.validate input .text) .rejected text) ∧
    ∀ c written,
      ((w.perform c).after written).result =
        ((w.run c).result.result, written ++ (w.run c).result.output) := by
  refine ⟨fun c f => output_of_error, fun c outcome text => run_eq_ok_iff,
    fun c outcome text shows => shows.tells, ?_, ?_, w.result_after⟩
  · intro input text shows
    cases shows with
    | cards checked fits => exact ⟨_, fits, .optionsJson checked, .optionsText checked⟩
  · intro input text
    constructor
    · intro shows
      cases shows with
      | cardsReport checked => exact .reportText checked
    · intro shows
      cases shows with
      | reportText checked => exact .cardsReport checked

/-- A count too wide for its card in one file, one that nothing accepts in another, and no options at
all on the standard input. -/
def bareStdin : World := { zeroAndWide with stdin := "\x7b\x7d".toUTF8 }

namespace bareStdin

def bare : Input := ⟨stdinName, none, none, none, none⟩

def traced : Input := ⟨"zero.json", none, none, none, some "r7"⟩

def optionsText : String :=
  "\x7b\n" ++
  "  \"antiparticleCorrectionOn\": false,\n" ++
  "  \"nuclearCorrectionOn\": true,\n" ++
  "  \"meanEnergyLoss\": 1.0,\n" ++
  "  \"minEnergyLoss\": 0.025,\n" ++
  "  \"scatteringType\": \"moliere\",\n" ++
  "  \"energyStraggling\": \"vavilov\",\n" ++
  "  \"fastNeutronTransportOn\": true,\n" ++
  "  \"lowEnergyNeutronCutOff\": 0.0,\n" ++
  "  \"recordSecondaryNeutronCreation\": false,\n" ++
  "  \"numberOfGeneratedParticles\": 1000,\n" ++
  "  \"numberOfRecordedParticles\": 1000\n" ++
  "\x7d"

def reportText : String :=
  "\x7b\n" ++
  "  \"reportId\": \"00000000-0000-0000-0000-000000000000\",\n" ++
  "  \"timestamp\": \"1970-01-01T00:00:00Z\",\n" ++
  "  \"context\": \x7b\n" ++
  "    \"requestId\": \"r7\",\n" ++
  "    \"additional\": \x7b\n" ++
  "      \"source\": \"zero.json\"\n" ++
  "    \x7d\n" ++
  "  \x7d,\n" ++
  "  \"errors\": [\n" ++
  "    \x7b\n" ++
  "      \"field\": \"numberOfGeneratedParticles\",\n" ++
  "      \"kind\": \"DomainViolation\",\n" ++
  "      \"message\": \"must be >= 1 (got 0)\"\n" ++
  "    \x7d\n" ++
  "  ]\n" ++
  "\x7d\n"

def rejectionText : String :=
  "Simulation options rejected (1 error, report 00000000-0000-0000-0000-000000000000)\n" ++
  "  numberOfGeneratedParticles [VALIDATION_1002] must be >= 1 (got 0)\n"

def cardsText : String :=
  "APCORR                 0\n" ++
  "DELTAE              0.01\n" ++
  "DEMIN              0.025\n" ++
  "MSCAT                  2\n" ++
  "NEUTRFAST              1\n" ++
  "NEUTRLCUT             0.\n" ++
  "NSTAT               1000      -1\n" ++
  "NUCRE                  1\n" ++
  "STRAGG                 2\n"

theorem pretty_builtin : Options.builtin.toJson.pretty = optionsText := by
  rw [Options.toJson_eq]
  decide +kernel

theorem cardText_builtin : Options.builtin.cardText = cardsText := by decide +kernel

end bareStdin

open zeroAndWide bareStdin in
/-- The first six cards of the wide count are rendered before the seventh fails. -/
theorem output_whole_or_none_bareStdin :
    ((bareStdin.run (.cards wide)).result.result =
        .error (TooWide.failure ⟨.nstat, "100000000"⟩) ∧
      (bareStdin.run (.cards wide)).result.output = "") ∧
    (bareStdin.run (.validate bare .json)).result = ⟨optionsText ++ "\n", .ok .accepted⟩ ∧
    bareStdin.Tells (.validate bare .json) .accepted (optionsText ++ "\n") ∧
    (bareStdin.run (.defaults true)).result = ⟨optionsText ++ "\n", .ok .accepted⟩ ∧
    bareStdin.Tells (.defaults true) .accepted (optionsText ++ "\n") ∧
    (bareStdin.run (.cards bare)).result = ⟨cardsText, .ok .accepted⟩ ∧
    bareStdin.Tells (.cards bare) .accepted cardsText ∧
    (∃ o : Options, o.cards.result = .ok cardsText ∧
      bareStdin.Shows (.validate bare .json) .accepted (o.toJson.pretty ++ "\n") ∧
      bareStdin.Shows (.validate bare .text) .accepted (Listing.options false o)) ∧
    (bareStdin.run (.validate traced .json)).result = ⟨reportText, .ok .rejected⟩ ∧
    bareStdin.Tells (.validate traced .json) .rejected reportText ∧
    (bareStdin.run (.cards zero)).result = ⟨rejectionText, .ok .rejected⟩ ∧
    bareStdin.Tells (.cards zero) .rejected rejectionText ∧
    bareStdin.Shows (.validate zero .text) .rejected rejectionText := by
  obtain ⟨failing, runs, tells, options, rejections, -⟩ := output_whole_or_none bareStdin
  have tooWide : (bareStdin.run (.cards wide)).result.result =
      .error (TooWide.failure ⟨.nstat, "100000000"⟩) := by decide +kernel
  have accepted : bareStdin.Concludes bare (.accepted .builtin) := prepare_eq_ok_iff.mp (by rfl)
  have shown {c : Command} {outcome : Outcome} {text : String}
      (ended : (bareStdin.run c).result.result = .ok outcome)
      (written : (bareStdin.run c).result.output = text) : bareStdin.Shows c outcome text :=
    (runs c outcome text).mp (by rw [← ended, ← written])
  have json : bareStdin.Shows (.validate bare .json) .accepted (optionsText ++ "\n") := by
    rw [← pretty_builtin]
    exact .optionsJson accepted
  have defaults : bareStdin.Shows (.defaults true) .accepted (optionsText ++ "\n") := by
    rw [← pretty_builtin]
    exact .defaultsPretty
  have cards : bareStdin.Shows (.cards bare) .accepted cardsText :=
    .cards accepted (Options.cards_result_eq_ok_iff.mpr ⟨by decide +kernel, cardText_builtin.symm⟩)
  have report : bareStdin.Shows (.validate traced .json) .rejected reportText :=
    shown (by decide +kernel) (by decide +kernel)
  have rejection : bareStdin.Shows (.cards zero) .rejected rejectionText :=
    shown (by decide +kernel) (by decide +kernel)
  exact ⟨⟨tooWide, failing _ _ tooWide⟩,
    (runs _ _ _).mpr json, tells _ _ _ json, (runs _ _ _).mpr defaults, tells _ _ _ defaults,
    (runs _ _ _).mpr cards, tells _ _ _ cards, options bare _ cards,
    (runs _ _ _).mpr report, tells _ _ _ report,
    (runs _ _ _).mpr rejection, tells _ _ _ rejection, (rejections zero _).mp rejection⟩

end World
end BeamRun
