import BeamRun.Card
import BeamRun.CommandLine
import BeamRun.Listing
import BeamRun.Loading
import BeamRun.Logging.Config

namespace BeamRun

/-- An attempt that adds to what was written before it. Whatever it has written by the time it fails
stays written. -/
abbrev Writing (α : Type) := ExceptT Failure (StateT String Logged) α

namespace Writing

variable {α : Type}

def write (text : String) : Writing Unit := ExceptT.lift (modify (· ++ text))

def ofAttempt (x : Attempt α) : Writing α :=
  ExceptT.mk fun written => ⟨x.run.events, (x.run.result, written)⟩

/-- The events of the work, and what is written and has come of it in the end. -/
def after (x : Writing α) (written : String) : Logged (Except Failure α × String) :=
  x.run.run written

end Writing

/-! The program as a function of what it can see: commands, their output and their events. -/

/-- All that a run depends on besides its command line. -/
structure World where
  files : Files
  stdin : ByteArray
  environment : List (String × String)
  colored : Bool
  /-- Identity and time of the report, should there be one. -/
  stamp : Report.Stamp

inductive Outcome where
  | accepted
  | rejected
  deriving DecidableEq, Repr

def Outcome.exitCode : Outcome → UInt8
  | accepted => 0
  | rejected => 2

structure Run where
  output : String
  result : Except Failure Outcome

namespace World

def environmentValue (w : World) (name : String) : Option String := w.environment.lookup name

def stdinName : String := "-"

/-- Slashes and single points behind the name change nothing. -/
def isStdin (path : String) : Bool :=
  match Text.pieces '/' path with
  | name :: rest => name == stdinName && rest.all fun part => part == "" || part == "."
  | [] => false

def payload (w : World) (path : String) : Attempt Payload :=
  if isStdin path then
    match Files.decode w.stdin with
    | .ok text => Attempt.ofExcept ((Payload.parse text).mapError (·.failure))
    | .error reason => throw ⟨.io, reason⟩
  else Attempt.ofOptions (Payload.load w.files path)

def context (input : Input) : Report.Context :=
  let c := Report.Context.empty.add "source" input.file
  { c with requestId := input.requestId, submittedBy := input.submittedBy }

/-- Settings, defaults and payload, in this order, and the check of what they hold. -/
def prepare (w : World) (input : Input) : Attempt Checked := do
  let settings ← Attempt.ofOptions (Settings.load w.files w.environment input.settings)
  let defaults ← settings.loadDefaults w.files input.defaults
  let payload ← w.payload input.file
  settings.check payload defaults (context input) w.stamp

end World

def Json.write (v : Json) (pretty : Bool) : Writing Unit := do
  Writing.write (if pretty then v.pretty else v.text)
  Writing.write "\n"

def Listing.writeOptions (colored : Bool) (o : Options) : Writing Unit := do
  Writing.write (acceptedHeadline colored)
  Field.all.forM fun f => Writing.write (option o f)

def Listing.writeRejection (colored : Bool) (r : Report Violation) : Writing Unit := do
  Writing.write (headline colored r)
  r.errors.forM fun v => Writing.write (violation colored v)

namespace World

def validate (w : World) (input : Input) (format : OutputFormat) : Writing Outcome := do
  match ← Writing.ofAttempt (w.prepare input) with
  | .accepted o =>
    match format with
    | .json => o.toJson.write true
    | .text => Listing.writeOptions w.colored o
    pure .accepted
  | .rejected r =>
    match format with
    | .json => (r.toJson Violation.toJson).write true
    | .text => Listing.writeRejection w.colored r
    pure .rejected

def cards (w : World) (input : Input) : Writing Outcome := do
  match ← Writing.ofAttempt (w.prepare input) with
  | .accepted o =>
    let text ← Writing.ofAttempt (ExceptT.mk ((·.mapError TooWide.failure) <$> o.cards))
    Writing.write text
    pure .accepted
  | .rejected r =>
    Listing.writeRejection w.colored r
    pure .rejected

def defaults (pretty : Bool) : Writing Outcome := do
  Options.builtin.toJson.write pretty
  pure .accepted

def perform (w : World) : Command → Writing Outcome
  | .validate input format => w.validate input format
  | .cards input => w.cards input
  | .defaults pretty => defaults pretty

def run (w : World) (c : Command) : Logged Run :=
  let x := (w.perform c).after ""
  ⟨x.events, ⟨x.result.2, x.result.1⟩⟩

end World

structure Execution where
  exitCode : UInt8
  output : String
  logged : List Event
  failure : Option Failure

namespace Execution

def failureContext : String := "transport"

def filterVariable : String := "RUST_LOG"

def ofRun (f : Logging.Filter) (c : Logging.Config) (r : Logged Run) : Execution :=
  let enabled (es : List Event) : List Event := (c.initialized :: es).filter f.enables
  match r.result.result with
  | .ok outcome => ⟨outcome.exitCode, r.result.output, enabled r.events, none⟩
  | .error failure =>
    ⟨1, r.result.output, enabled (r.events ++ [failure.event failureContext]), some failure⟩

end Execution

def World.execute (w : World) (i : Invocation) : Execution :=
  match i.logging.install (w.environmentValue Execution.filterVariable) false with
  | .ok f => .ofRun f i.logging (w.run i.command)
  | .error fault => ⟨1, "", [], some fault.failure⟩

end BeamRun
