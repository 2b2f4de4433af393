import BeamRun.Failure
import BeamRun.Files
import BeamRun.Report
import BeamRun.Settings.Variable
import BeamRun.Toml.Reader
import BeamRun.Validation

namespace BeamRun.Settings

/-- A relative name without parts that lead nowhere. -/
def shownPath (path : String) : String :=
  if path.toList.head? = some '/' then path
  else "/".intercalate ((Text.pieces '/' path).filter fun part => part ≠ "" ∧ part ≠ ".")

def fileLayer (files : Files) (path : String) : Except Fault Layer :=
  let shown := shownPath path
  match files.readText path with
  | .error reason => .error (.unreadable shown reason)
  | .ok text =>
    match Toml.parse? text with
    | none => .error (.malformed shown)
    | some entries => .ok (ofTomlEntries (.file shown) entries)

def resolve (files : Files) (environment : List (String × String)) (path : Option String) :
    Except OptionsFailure Settings := do
  let fromFile ← match path with
    | none => pure []
    | some path =>
      if files.isFile path then (fileLayer files path).mapError .settingsInvalid
      else throw (.settingsMissing path)
  (ofLayer (flatten [builtinLayer, fromFile, Variable.layer environment])).mapError .settingsInvalid

def loaded (s : Settings) : Event :=
  ⟨.debug, .settings, "Validator settings loaded",
    [("unknown_keys", .text s.unknownKeys.label), ("neutron_cutoff", .text s.neutronCutoff.label)]⟩

def load (files : Files) (environment : List (String × String)) (path : Option String) :
    Logged (Except OptionsFailure Settings) :=
  match resolve files environment path with
  | .ok s => ⟨[loaded s], .ok s⟩
  | .error f => ⟨[], .error f⟩

end BeamRun.Settings

/-! Payloads and defaults from files, and the check that turns a rejection into a report. -/

namespace BeamRun

def Event.payloadLoaded (path text : String) : Event :=
  ⟨.debug, .providers, "Loaded options payload",
    [("path", .text path), ("bytes", .count text.utf8ByteSize)]⟩

def Payload.load (files : Files) (path : String) : Logged (Except OptionsFailure Payload) :=
  match files.readText path with
  | .ok text => ⟨[.payloadLoaded path text], Payload.parse text⟩
  | .error reason => ⟨[], .error (.unreadable path reason)⟩

abbrev Attempt (α : Type) := ExceptT Failure Logged α

namespace Attempt

variable {α β : Type}

def ofLogged (tell : OptionsFailure → Failure) (x : Logged (Except OptionsFailure α)) : Attempt α :=
  ExceptT.mk ⟨x.events, x.result.mapError tell⟩

def ofOptions (x : Logged (Except OptionsFailure α)) : Attempt α := ofLogged (·.failure) x

def ofExcept (x : Except Failure α) : Attempt α := ExceptT.mk ⟨[], x⟩

theorem result_ofLogged_of_ok {tell : OptionsFailure → Failure}
    {x : Logged (Except OptionsFailure α)} {a : α} (done : x.result = .ok a) :
    (ofLogged tell x).run.result = .ok a :=
  congrArg (Except.mapError tell) done

theorem result_ofOptions_of_ok {x : Logged (Except OptionsFailure α)} {a : α}
    (done : x.result = .ok a) : (ofOptions x).run.result = .ok a :=
  result_ofLogged_of_ok done

theorem result_bind_of_ok {x : Attempt α} {a : α} (done : x.run.result = .ok a)
    (f : α → Attempt β) : (x >>= f).run.result = (f a).run.result := by
  have result : (x >>= f).run.result = (ExceptT.bindCont f x.run.result).result := rfl
  rw [result, done]
  rfl

end Attempt

def Failure.ofDefaults (path : String) : OptionsFailure → Failure
  | .rejected vs => ⟨.precondition, "defaults file " ++ path ++ " is invalid: " ++ vs.text⟩
  | other => other.failure

def Settings.loadDefaults (s : Settings) (files : Files) : Option String → Attempt Options
  | none => pure .builtin
  | some path => do
    let payload ← Attempt.ofOptions (Payload.load files path)
    Attempt.ofLogged (Failure.ofDefaults path) (s.validate payload .builtin)

inductive Checked where
  | accepted (o : Options)
  | rejected (r : Report Violation)

def Event.checked (p : Payload) : Event :=
  ⟨.info, .commands, "Simulation options accepted", [("keys", .count p.size)]⟩

def Checked.ofVerdict (p : Payload) (context : Report.Context) (stamp : Report.Stamp)
    (verdict : Logged (Except OptionsFailure Options)) : Attempt Checked :=
  match verdict.result with
  | .ok o => ExceptT.mk ⟨verdict.events ++ [.checked p], .ok (.accepted o)⟩
  | .error (.rejected vs) =>
    let report : Report Violation := ⟨stamp, context, vs⟩
    ExceptT.mk ⟨verdict.events ++ [report.event Violation.toJson], .ok (.rejected report)⟩
  | .error other => ExceptT.mk ⟨verdict.events, .error other.failure⟩

def Settings.check (s : Settings) (p : Payload) (defaults : Options) (context : Report.Context)
    (stamp : Report.Stamp) : Attempt Checked :=
  Checked.ofVerdict p context stamp (s.validate p defaults)

end BeamRun
