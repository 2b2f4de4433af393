import BeamRun.Main
import BeamRun.Proofs.Card
import BeamRun.Proofs.Settings.Precedence
import BeamRun.Proofs.Validation.Reach
import BeamRun.Proofs.Writing

/-! How a command ends. Settings, defaults and payload are read in this order up to the first that
fails; what fails decides the kind of the failure, and only the verdict on the payload rejects. -/

namespace BeamRun

theorem OptionsFailure.kind_failure (f : OptionsFailure) : f.failure.kind = f.kind := by
  cases f <;> rfl

namespace Attempt

variable {α β : Type}

/-- What an attempt comes to, a failure told by its kind alone. -/
def ending (x : Attempt α) : Except FailureKind α := x.run.result.mapError (·.kind)

theorem ending_bind (x : Attempt α) (f : α → Attempt β) :
    ending (x >>= f) = (ending x).bind fun a => ending (f a) := by
  have result : (x >>= f).run.result = (ExceptT.bindCont f x.run.result).result := rfl
  rw [ending, ending, result]
  cases x.run.result <;> rfl

theorem ending_ofLogged (tell : OptionsFailure → Failure) (x : Logged (Except OptionsFailure α)) :
    ending (ofLogged tell x) = x.result.mapError fun failure => (tell failure).kind := by
  rw [ending, ofLogged]
  cases x.result <;> rfl

theorem ending_ofExcept (x : Except OptionsFailure α) :
    ending (ofExcept (x.mapError (·.failure))) = x.mapError (·.kind) := by
  cases x with
  | ok a => rfl
  | error f => exact congrArg Except.error f.kind_failure

theorem ending_ofOptions (x : Logged (Except OptionsFailure α)) :
    ending (ofOptions x) = x.result.mapError (·.kind) := by
  rw [ofOptions, ending_ofLogged]
  simp only [OptionsFailure.kind_failure]

end Attempt

open Attempt (ending ending_bind ending_ofLogged ending_ofOptions)

section Texts

def Files.text? (files : Files) (path : String) : Option String :=
  (files.read path).toOption.bind String.fromUTF8?

/-- The text of a payload: the standard input's or a file's. -/
def World.text? (w : World) (path : String) : Option String :=
  if World.isStdin path then String.fromUTF8? w.stdin else w.files.text? path

/-- What comes of a text, if there is one, that should be a JSON object. -/
inductive Payload.Read : Option String → Except FailureKind Payload → Prop
  | unreadable : Read none (.error .io)
  | otherwise {text : String} (other : ∀ entries, Json.parse text ≠ .ok (.object entries)) :
      Read (some text) (.error .serialization)
  | object {text : String} {entries : List (String × Json)}
      (parsed : Json.parse text = .ok (.object entries)) :
      Read (some text) (.ok (TextMap.ofList entries))

namespace Payload

def ofText (text : Option String) : Except FailureKind Payload :=
  text.elim (.error .io) fun t => (Payload.parse t).mapError (·.kind)

theorem Read.ofText_eq {text : Option String} {r : Except FailureKind Payload} (read : Read text r) :
    ofText text = r := by
  cases read with
  | unreadable => rfl
  | object parsed => simp only [ofText, Option.elim_some, parse, parsed, ofJson, Except.mapError]
  | @otherwise t other =>
    simp only [ofText, Option.elim_some, parse]
    cases parsed : Json.parse t with
    | error e => rfl
    | ok v =>
      cases v with
      | object entries => exact absurd parsed (other entries)
      | _ => rfl

theorem exists_read (text : Option String) : ∃ r, Read text r := by
  cases text with
  | none => exact ⟨_, .unreadable⟩
  | some t =>
    by_cases object : ∃ entries, Json.parse t = .ok (.object entries)
    · obtain ⟨entries, parsed⟩ := object
      exact ⟨_, .object parsed⟩
    · exact ⟨_, .otherwise fun entries parsed => object ⟨entries, parsed⟩⟩

theorem Read.kind_cases {text : Option String} {kind : FailureKind} (read : Read text (.error kind)) :
    kind = .io ∨ kind = .serialization := by
  cases read with
  | unreadable => exact .inl rfl
  | otherwise => exact .inr rfl

theorem ending_load (files : Files) (path : String) :
    ending (Attempt.ofOptions (Payload.load files path)) = ofText (files.text? path) := by
  rw [ending_ofOptions, load, Files.text?, Files.readText]
  cases files.read path with
  | error fault => rfl
  | ok bytes =>
    simp only [Files.decode, Except.toOption, Option.bind_some]
    cases String.fromUTF8? bytes <;> rfl

end Payload

theorem World.ending_payload (w : World) (path : String) :
    ending (w.payload path) = Payload.ofText (w.text? path) := by
  rw [payload, text?]
  split
  · rw [Files.decode]
    cases String.fromUTF8? w.stdin with
    | none => rfl
    | some text => exact Attempt.ending_ofExcept (Payload.parse text)
  · exact Payload.ending_load w.files path

end Texts

namespace Settings

theorem kind_of_resolve {files : Files} {environment : List (String × String)}
    {path : Option String} {f : OptionsFailure}
    (failed : resolve files environment path = .error f) : f.kind = .configuration := by
  rcases resolve_error_cases failed with ⟨fault, rfl⟩ | ⟨p, -, -, rfl⟩
  · rfl
  · rfl

theorem load_mapError {files : Files} {environment : List (String × String)} {path : Option String}
    (none : ∀ s, (load files environment path).result ≠ .ok s) :
    (load files environment path).result.mapError (·.kind) = .error .configuration := by
  cases resolved : resolve files environment path with
  | ok s => exact absurd (by rw [load, resolved]) (none s)
  | error f =>
    rw [load, resolved]
    exact congrArg Except.error (kind_of_resolve resolved)

variable {s : Settings}

theorem judge_cases {d : Options} (sound : d.Sound s.neutronCutoff) (p : Payload) :
    (∃ m, s.judge p d = .ok m) ∨ ∃ vs, s.judge p d = .error (.rejected vs) := by
  rw [judge_eq, if_pos ((audit_eq_nil_iff d).mpr sound)]
  split
  · exact .inl ⟨_, rfl⟩
  · exact .inr ⟨_, rfl⟩

inductive Provides (s : Settings) (files : Files) :
    Option String → Except FailureKind Options → Prop
  | builtin : Provides s files none (.ok .builtin)
  | failed {path : String} {kind : FailureKind}
      (read : Payload.Read (files.text? path) (.error kind)) :
      Provides s files (some path) (.error kind)
  | accepted {path : String} {p : Payload} {m : Options}
      (read : Payload.Read (files.text? path) (.ok p)) (sound : s.judge p .builtin = .ok m) :
      Provides s files (some path) (.ok m)
  | refused {path : String} {p : Payload} (read : Payload.Read (files.text? path) (.ok p))
      (unsound : ∀ m, s.judge p .builtin ≠ .ok m) :
      Provides s files (some path) (.error .precondition)

theorem ending_loadDefaults (s : Settings) (files : Files) (path : String) :
    ending (s.loadDefaults files (some path)) =
      (Payload.ofText (files.text? path)).bind fun p =>
        (s.judge p .builtin).mapError fun failure => (Failure.ofDefaults path failure).kind := by
  rw [loadDefaults, ending_bind, Payload.ending_load]
  simp only [ending_ofLogged, judge]

theorem Provides.ending_eq {files : Files} {path : Option String} {r : Except FailureKind Options}
    (provides : s.Provides files path r) : ending (s.loadDefaults files path) = r := by
  cases provides with
  | builtin => rfl
  | failed read =>
    rw [ending_loadDefaults, read.ofText_eq]
    rfl
  | accepted read sound =>
    rw [ending_loadDefaults, read.ofText_eq, Except.bind, sound]
    rfl
  | @refused path p read unsound =>
    -- Built-in defaults pass under all settings, so what is refused is the payload.
    obtain ⟨m, accepted⟩ | ⟨vs, rejected⟩ := judge_cases (Options.builtin_sound s.neutronCutoff) p
    · exact absurd accepted (unsound m)
    · rw [ending_loadDefaults, read.ofText_eq, Except.bind, rejected]
      rfl

theorem exists_provides (s : Settings) (files : Files) (path : Option String) :
    ∃ r, s.Provides files path r := by
  cases path with
  | none => exact ⟨_, .builtin⟩
  | some path =>
    obtain ⟨r, read⟩ := Payload.exists_read (files.text? path)
    cases r with
    | error kind => exact ⟨_, .failed read⟩
    | ok p =>
      by_cases accepted : ∃ m, s.judge p .builtin = .ok m
      · obtain ⟨m, sound⟩ := accepted
        exact ⟨_, .accepted read sound⟩
      · exact ⟨_, .refused read fun m sound => accepted ⟨m, sound⟩⟩

theorem Provides.sound {files : Files} {path : Option String} {d : Options}
    (provides : s.Provides files path (.ok d)) : d.Sound s.neutronCutoff := by
  cases provides with
  | builtin => exact Options.builtin_sound s.neutronCutoff
  | accepted _ accepted => exact sound_of_judge accepted

theorem ending_check_of_ok {p : Payload} {d m : Options} (accepted : s.judge p d = .ok m)
    (context : Report.Context) (stamp : Report.Stamp) :
    ending (s.check p d context stamp) = .ok (.accepted m) := by
  rw [judge] at accepted
  rw [check, Checked.ofVerdict, accepted]
  rfl

theorem ending_check_of_rejected {p : Payload} {d : Options} {vs : Violations}
    (rejected : s.judge p d = .error (.rejected vs)) (context : Report.Context)
    (stamp : Report.Stamp) :
    ending (s.check p d context stamp) = .ok (.rejected ⟨stamp, context, vs⟩) := by
  rw [judge] at rejected
  rw [check, Checked.ofVerdict, rejected]
  rfl

end Settings

structure Materials where
  settings : Settings
  defaults : Options
  payload : Payload

def Materials.verdict (x : Materials) : Except OptionsFailure Options :=
  x.settings.judge x.payload x.defaults

namespace World

variable {w : World} {input : Input}

/-- What comes of reading for an input: the first failure, or everything. -/
inductive Loads (w : World) (input : Input) : Except FailureKind Materials → Prop
  | unset (none : ∀ s, (Settings.load w.files w.environment input.settings).result ≠ .ok s) :
      Loads w input (.error .configuration)
  | unprovided {s : Settings} {kind : FailureKind}
      (chosen : (Settings.load w.files w.environment input.settings).result = .ok s)
      (failed : s.Provides w.files input.defaults (.error kind)) :
      Loads w input (.error kind)
  | unread {s : Settings} {d : Options} {kind : FailureKind}
      (chosen : (Settings.load w.files w.environment input.settings).result = .ok s)
      (provided : s.Provides w.files input.defaults (.ok d))
      (failed : Payload.Read (w.text? input.file) (.error kind)) :
      Loads w input (.error kind)
  | everything {s : Settings} {d : Options} {p : Payload}
      (chosen : (Settings.load w.files w.environment input.settings).result = .ok s)
      (provided : s.Provides w.files input.defaults (.ok d))
      (read : Payload.Read (w.text? input.file) (.ok p)) :
      Loads w input (.ok ⟨s, d, p⟩)

theorem exists_loads (w : World) (input : Input) : ∃ r, w.Loads input r := by
  by_cases loaded : ∃ s, (Settings.load w.files w.environment input.settings).result = .ok s
  · obtain ⟨s, chosen⟩ := loaded
    obtain ⟨d, provided⟩ := s.exists_provides w.files input.defaults
    obtain ⟨p, read⟩ := Payload.exists_read (w.text? input.file)
    cases d with
    | error kind => exact ⟨_, .unprovided chosen provided⟩
    | ok d =>
      cases p with
      | error kind => exact ⟨_, .unread chosen provided read⟩
      | ok p => exact ⟨_, .everything chosen provided read⟩
  · exact ⟨_, .unset fun s chosen => loaded ⟨s, chosen⟩⟩

theorem ending_prepare (w : World) (input : Input) :
    ending (w.prepare input) =
      ((Settings.load w.files w.environment input.settings).result.mapError (·.kind)).bind fun s =>
        (ending (s.loadDefaults w.files input.defaults)).bind fun d =>
          (Payload.ofText (w.text? input.file)).bind fun p =>
            ending (s.check p d (context input) w.stamp) := by
  rw [prepare]
  simp only [ending_bind, ending_ofOptions, ending_payload]

theorem Loads.ending_prepare_of_error {kind : FailureKind} (loads : w.Loads input (.error kind)) :
    ending (w.prepare input) = .error kind := by
  rw [ending_prepare]
  cases loads with
  | unset none =>
    rw [Settings.load_mapError none]
    rfl
  | unprovided chosen failed =>
    rw [chosen, Except.mapError, Except.bind, failed.ending_eq]
    rfl
  | unread chosen provided failed =>
    rw [chosen, Except.mapError, Except.bind, provided.ending_eq, Except.bind, failed.ofText_eq]
    rfl

theorem Loads.ending_prepare_of_ok {x : Materials} (loads : w.Loads input (.ok x)) :
    ending (w.prepare input) =
      ending (x.settings.check x.payload x.defaults (context input) w.stamp) := by
  rw [ending_prepare]
  cases loads with
  | everything chosen provided read =>
    rw [chosen, Except.mapError, Except.bind, provided.ending_eq, Except.bind, read.ofText_eq,
      Except.bind]

theorem Loads.ending_prepare_of_accepted {x : Materials} {m : Options}
    (loads : w.Loads input (.ok x)) (verdict : x.verdict = .ok m) :
    ending (w.prepare input) = .ok (.accepted m) := by
  rw [loads.ending_prepare_of_ok, Settings.ending_check_of_ok verdict]

theorem Loads.ending_prepare_of_rejected {x : Materials} {vs : Violations}
    (loads : w.Loads input (.ok x)) (verdict : x.verdict = .error (.rejected vs)) :
    ending (w.prepare input) = .ok (.rejected ⟨w.stamp, context input, vs⟩) := by
  rw [loads.ending_prepare_of_ok, Settings.ending_check_of_rejected verdict]

inductive Ends (w : World) : Command → Except FailureKind Outcome → Prop
  | failed {c : Command} {input : Input} {kind : FailureKind} (reads : Main.inputOf c = some input)
      (loads : w.Loads input (.error kind)) : Ends w c (.error kind)
  | rejected {c : Command} {input : Input} {x : Materials} {vs : Violations}
      (reads : Main.inputOf c = some input) (loads : w.Loads input (.ok x))
      (verdict : x.verdict = .error (.rejected vs)) : Ends w c (.ok .rejected)
  | validated {input : Input} {format : OutputFormat} {x : Materials} {m : Options}
      (loads : w.Loads input (.ok x)) (verdict : x.verdict = .ok m) :
      Ends w (.validate input format) (.ok .accepted)
  | written {input : Input} {x : Materials} {m : Options} (loads : w.Loads input (.ok x))
      (verdict : x.verdict = .ok m) (fit : ∀ c : Card, ∀ e ∈ c.entries m, e.column ≠ none) :
      Ends w (.cards input) (.ok .accepted)
  | tooWide {input : Input} {x : Materials} {m : Options} {c : Card} {e : Card.Entry}
      (loads : w.Loads input (.ok x)) (verdict : x.verdict = .ok m) (listed : e ∈ c.entries m)
      (wide : e.column = none) : Ends w (.cards input) (.error .serialization)
  | builtin {pretty : Bool} : Ends w (.defaults pretty) (.ok .accepted)

theorem ending_run (w : World) (c : Command) :
    (w.run c).result.result.mapError (·.kind) = (ending (w.document c)).map (·.2) := by
  rw [run_eq, ending]
  cases (w.document c).run.result <;> rfl

theorem ending_cards (o : Options) :
    ending (ExceptT.mk ((·.mapError TooWide.failure) <$> o.cards)) =
      o.tooWide?.elim (.ok o.cardText) fun _ => .error .serialization := by
  change (o.cards.result.mapError TooWide.failure).mapError (·.kind) = _
  rw [Options.cards_result]
  cases o.tooWide? <;> rfl

theorem Ends.run_eq {c : Command} {r : Except FailureKind Outcome} (ends : w.Ends c r) :
    (w.run c).result.result.mapError (·.kind) = r := by
  rw [ending_run]
  cases ends with
  | builtin => rfl
  | @failed c input kind reads loads =>
    cases c with
    | defaults pretty => cases reads
    | validate input format =>
      cases reads
      rw [document, ending_bind, loads.ending_prepare_of_error]
      rfl
    | cards input =>
      cases reads
      rw [document, ending_bind, loads.ending_prepare_of_error]
      rfl
  | @rejected c input x vs reads loads verdict =>
    cases c with
    | defaults pretty => cases reads
    | validate input format =>
      cases reads
      rw [document, ending_bind, loads.ending_prepare_of_rejected verdict]
      cases format <;> rfl
    | cards input =>
      cases reads
      rw [document, ending_bind, loads.ending_prepare_of_rejected verdict]
      rfl
  | @validated input format x m loads verdict =>
    rw [document, ending_bind, loads.ending_prepare_of_accepted verdict]
    cases format <;> rfl
  | @written input x m loads verdict fit =>
    rw [document, ending_bind, loads.ending_prepare_of_accepted verdict, Except.bind, ending_bind,
      ending_cards, Options.none_too_wide_iff.mpr fit]
    rfl
  | @tooWide input x m c e loads verdict listed wide =>
    obtain ⟨t, found⟩ := Option.ne_none_iff_exists'.mp fun none =>
      Options.none_too_wide_iff.mp none c e listed wide
    rw [document, ending_bind, loads.ending_prepare_of_accepted verdict, Except.bind, ending_bind,
      ending_cards, found]
    rfl

theorem Loads.verdict_cases {x : Materials} (loads : w.Loads input (.ok x)) :
    (∃ m, x.verdict = .ok m) ∨ ∃ vs, x.verdict = .error (.rejected vs) := by
  cases loads with
  | everything chosen provided read => exact Settings.judge_cases provided.sound _

theorem exists_ends (w : World) (c : Command) : ∃ r, w.Ends c r := by
  have stopped (input : Input) (reads : Main.inputOf c = some input) :
      (∃ r, w.Ends c r) ∨ ∃ x m, w.Loads input (.ok x) ∧ x.verdict = .ok m := by
    obtain ⟨r, loads⟩ := w.exists_loads input
    cases r with
    | error kind => exact .inl ⟨_, .failed reads loads⟩
    | ok x =>
      rcases loads.verdict_cases with ⟨m, verdict⟩ | ⟨vs, verdict⟩
      · exact .inr ⟨x, m, loads, verdict⟩
      · exact .inl ⟨_, .rejected reads loads verdict⟩
  cases c with
  | defaults pretty => exact ⟨_, .builtin⟩
  | validate input format =>
    rcases stopped input rfl with done | ⟨x, m, loads, verdict⟩
    · exact done
    · exact ⟨_, .validated loads verdict⟩
  | cards input =>
    rcases stopped input rfl with done | ⟨x, m, loads, verdict⟩
    · exact done
    · by_cases fit : ∀ c : Card, ∀ e ∈ c.entries m, e.column ≠ none
      · exact ⟨_, .written loads verdict fit⟩
      · push Not at fit
        obtain ⟨card, e, listed, wide⟩ := fit
        exact ⟨_, .tooWide loads verdict listed wide⟩

theorem run_eq_iff {c : Command} {r : Except FailureKind Outcome} :
    (w.run c).result.result.mapError (·.kind) = r ↔ w.Ends c r := by
  constructor
  · -- Something stands in the relation, and whatever does is what the run comes to.
    intro same
    obtain ⟨r', ends⟩ := w.exists_ends c
    rwa [← same, ends.run_eq]
  · exact Ends.run_eq

theorem Ends.unique {c : Command} {r r' : Except FailureKind Outcome} (ends : w.Ends c r)
    (ends' : w.Ends c r') : r = r' :=
  ends.run_eq.symm.trans ends'.run_eq

/-- The defaults file holds an object that the settings do not accept over the built-in defaults. -/
def RefusesDefaults (w : World) (input : Input) : Prop :=
  ∃ s path p, (Settings.load w.files w.environment input.settings).result = .ok s ∧
    input.defaults = some path ∧ Payload.Read (w.files.text? path) (.ok p) ∧
    ∀ m, s.judge p .builtin ≠ .ok m

theorem Loads.kind_cases {kind : FailureKind} (loads : w.Loads input (.error kind)) :
    kind ∈ [.configuration, .io, .serialization] ∨
      kind = .precondition ∧ w.RefusesDefaults input := by
  cases loads with
  | unset => simp
  | unread _ _ failed => rcases failed.kind_cases with rfl | rfl <;> simp
  | @unprovided s _ chosen failed =>
    generalize given : input.defaults = path at failed
    cases failed with
    | failed read => rcases read.kind_cases with rfl | rfl <;> simp
    | @refused path p read unsound => exact .inr ⟨rfl, s, path, p, chosen, given, read, unsound⟩

theorem Ends.kind_cases {c : Command} {kind : FailureKind} (reads : Main.inputOf c = some input)
    (ends : w.Ends c (.error kind)) :
    kind ∈ [.configuration, .io, .serialization] ∨
      kind = .precondition ∧ w.RefusesDefaults input := by
  cases ends with
  | failed reads' loads =>
    cases reads.symm.trans reads'
    exact loads.kind_cases
  | tooWide => simp

theorem ends_precondition_iff {c : Command} (reads : Main.inputOf c = some input) :
    w.Ends c (.error .precondition) ↔ w.RefusesDefaults input := by
  constructor
  · intro ends
    simpa using ends.kind_cases reads
  · rintro ⟨s, path, p, chosen, given, read, unsound⟩
    exact .failed reads (.unprovided chosen (given ▸ .refused read unsound))

theorem ends_rejected_iff {c : Command} (reads : Main.inputOf c = some input) :
    w.Ends c (.ok .rejected) ↔
      ∃ x vs, w.Loads input (.ok x) ∧ x.verdict = .error (.rejected vs) := by
  constructor
  · intro ends
    cases ends with
    | rejected reads' loads verdict =>
      cases reads.symm.trans reads'
      exact ⟨_, _, loads, verdict⟩
  · rintro ⟨x, vs, loads, verdict⟩
    exact .rejected reads loads verdict

/-- The program logs with one of two levels, both of which there are. -/
theorem exists_filter (i : Invocation) (requested : Option String) :
    ∃ f, i.logging.install requested false = .ok f := by
  have debug : Logging.Level.parse? "debug" = some .debug := by decide +kernel
  have warn : Logging.Level.parse? "warn" = some .warn := by decide +kernel
  have level : ∃ l, i.logging.levelFilter = .ok l := by
    rw [Logging.Config.levelFilter, Invocation.logging]
    cases i.verbose with
    | true => exact ⟨.debug, by simp only [if_true, debug, Option.elim_some]⟩
    | false => exact ⟨.warn, by simp [warn]⟩
  obtain ⟨l, level⟩ := level
  rw [Logging.Config.install, Logging.Config.filter, level]
  cases requested.bind Logging.Filter.parse? with
  | none => exact ⟨_, rfl⟩
  | some f => exact ⟨f, rfl⟩

/-- Exit codes by how a command ends. -/
def exitCodeOf : Except FailureKind Outcome → UInt8
  | .ok outcome => outcome.exitCode
  | .error _ => 1

theorem Ends.exitCode_eq {i : Invocation} {r : Except FailureKind Outcome}
    (ends : w.Ends i.command r) : (w.execute i).exitCode = exitCodeOf r := by
  obtain ⟨f, installed⟩ := exists_filter i (w.environmentValue Execution.filterVariable)
  rw [← ends.run_eq, execute, installed]
  simp only [Execution.ofRun]
  cases (w.run i.command).result.result <;> rfl

/-- Every command ends as the relation tells. An unmet precondition means refused defaults, a rejection
is never a failure but has an exit code of its own, and the two commands on a payload reject alike. -/
theorem outcomes_classified (w : World) :
    (∀ c r, (w.run c).result.result.mapError (·.kind) = r ↔ w.Ends c r) ∧
    (∀ c input, Main.inputOf c = some input →
      (w.Ends c (.error .precondition) ↔ w.RefusesDefaults input) ∧
      ¬ w.Ends c (.error .validation) ∧
      (w.Ends c (.ok .rejected) ↔
        ∃ x vs, w.Loads input (.ok x) ∧ x.verdict = .error (.rejected vs))) ∧
    (∀ input format,
      w.Ends (.validate input format) (.ok .rejected) ↔ w.Ends (.cards input) (.ok .rejected)) ∧
    (∀ input x, w.Loads input (.ok x) → ∀ vs, x.verdict ≠ .error (.unsoundDefaults vs)) ∧
    ∀ i : Invocation,
      ((w.execute i).exitCode = 0 ↔ w.Ends i.command (.ok .accepted)) ∧
      ((w.execute i).exitCode = 2 ↔ w.Ends i.command (.ok .rejected)) ∧
      ((w.execute i).exitCode = 1 ↔ ∃ kind, w.Ends i.command (.error kind)) := by
  refine ⟨fun c r => run_eq_iff, ?_, ?_, ?_, ?_⟩
  · intro c input reads
    refine ⟨ends_precondition_iff reads, ?_, ends_rejected_iff reads⟩
    intro ends
    simpa using ends.kind_cases reads
  · intro input format
    rw [ends_rejected_iff rfl, ends_rejected_iff rfl]
  · intro input x loads vs unsound
    obtain ⟨m, verdict⟩ | ⟨vs', verdict⟩ := loads.verdict_cases
    · cases verdict.symm.trans unsound
    · cases verdict.symm.trans unsound
  · intro i
    obtain ⟨r, ends⟩ := w.exists_ends i.command
    have only (r' : Except FailureKind Outcome) : w.Ends i.command r' ↔ r = r' :=
      ⟨ends.unique, fun same => same ▸ ends⟩
    simp only [ends.exitCode_eq, only]
    cases r with
    | error kind => simp [exitCodeOf]
    | ok outcome => cases outcome <;> simp [exitCodeOf, Outcome.exitCode]

/-- A count that nothing accepts, and one that no card holds; settings that break off, and bytes that are
no text. -/
def zeroAndWide : World where
  files := .ofList
    [("zero.json", .regular (.ok "\x7b\"numberOfGeneratedParticles\": 0\x7d".toUTF8)),
      ("wide.json", .regular (.ok "\x7b\"numberOfGeneratedParticles\": 100000000\x7d".toUTF8)),
      ("torn.toml", .regular (.ok "unknown_keys = ".toUTF8)),
      ("bytes.json", .regular (.ok ⟨#[0xc3, 0x28]⟩))]
  stdin := .empty
  environment := []
  colored := false
  stamp := ⟨⟨0⟩, ⟨0, 0⟩⟩

def zeroAndWide.zero : Input := ⟨"zero.json", none, none, none, none⟩

def zeroAndWide.wide : Input := ⟨"wide.json", none, none, none, none⟩

def zeroAndWide.wideOverZero : Input := ⟨"wide.json", some "zero.json", none, none, none⟩

def zeroAndWide.tornSettings : Input := ⟨"bytes.json", some "zero.json", some "torn.toml", none, none⟩

def zeroAndWide.undecodable : Input := ⟨"bytes.json", none, none, none, none⟩

open zeroAndWide in
theorem outcomes_classified_zeroAndWide :
    zeroAndWide.Ends (.cards wide) (.error .serialization) ∧
    (zeroAndWide.execute ⟨false, false, .validate wide .json⟩).exitCode = 0 ∧
    zeroAndWide.RefusesDefaults wideOverZero ∧
    (∃ x vs, zeroAndWide.Loads zero (.ok x) ∧ x.verdict = .error (.rejected vs) ∧
      x.verdict ≠ .error (.unsoundDefaults vs)) ∧
    zeroAndWide.Ends (.cards zero) (.ok .rejected) ∧
    (zeroAndWide.execute ⟨false, false, .cards zero⟩).exitCode = 2 ∧
    zeroAndWide.Ends (.cards tornSettings) (.error .configuration) ∧
    zeroAndWide.Ends (.validate undecodable .text) (.error .io) ∧
    (zeroAndWide.execute ⟨false, false, .validate undecodable .text⟩).exitCode = 1 := by
  obtain ⟨runs, kinds, agree, clean, exits⟩ := outcomes_classified zeroAndWide
  have tooWide := (runs (.cards wide) (.error .serialization)).mp (by decide +kernel)
  have accepted := (runs (.validate wide .json) (.ok .accepted)).mp (by decide +kernel)
  have refused := (runs (.cards wideOverZero) (.error .precondition)).mp (by decide +kernel)
  have rejected := (runs (.validate zero .text) (.ok .rejected)).mp (by decide +kernel)
  have unset := (runs (.cards tornSettings) (.error .configuration)).mp (by decide +kernel)
  have unread := (runs (.validate undecodable .text) (.error .io)).mp (by decide +kernel)
  obtain ⟨x, vs, loads, verdict⟩ := (kinds _ zero rfl).2.2.mp rejected
  have cards := (agree zero .text).mp rejected
  exact ⟨tooWide, (exits ⟨false, false, .validate wide .json⟩).1.mpr accepted,
    (kinds _ wideOverZero rfl).1.mp refused, ⟨x, vs, loads, verdict, clean zero x loads vs⟩, cards,
    (exits ⟨false, false, .cards zero⟩).2.1.mpr cards, unset, unread,
    (exits ⟨false, false, .validate undecodable .text⟩).2.2.mpr ⟨_, unread⟩⟩

end World
end BeamRun
