import BeamRun.Event
import BeamRun.Json.Cursor
import BeamRun.Text
import BeamRun.Text.Quoted
import BeamRun.Violation

namespace BeamRun.Settings

inductive Source where
  | builtin
  | file (path : String)
  | environment
  deriving DecidableEq, Repr

def variablePrefix : String := "TRANSPORT_OPTIONS_"

/-- The name of a source in messages; the built-in layer has none to show. -/
def Source.describe : Source → String
  | builtin => "built-in"
  | file path => path ++ " TOML file"
  | environment => "`" ++ variablePrefix ++ "` environment variable(s)"

/-- How a source writes the path to one of its values. -/
def Source.key : Source → List String → String
  | builtin, path => ".".intercalate path
  | file _, path => ".".intercalate ("default" :: path)
  | environment, path =>
    ".".intercalate (path.map fun part => String.ofList (part.toList.map Char.toUpper))

inductive Mistake where
  | unknownVariant (found : String) (expected : List String)
  | invalidType (found expected : String)
  deriving DecidableEq, Repr

def Mistake.message : Mistake → String
  | unknownVariant found expected =>
    "unknown variant: found `" ++ found ++ "`, expected `" ++
      " or ".intercalate (expected.map fun name => "`" ++ name ++ "`") ++ "`"
  | invalidType found expected => "invalid type: found " ++ found ++ ", expected " ++ expected

inductive Fault where
  | malformed (path : String)
  | unreadable (path reason : String)
  | mistaken (mistake : Mistake) (path : List String) (source : Source)
  deriving DecidableEq, Repr

def Fault.message : Fault → String
  | malformed _ => "TOML parse error"
  | unreadable path reason => reason ++ "\n in " ++ (Source.file path).describe
  | mistaken mistake path source =>
    mistake.message ++ " for key " ++ Text.quoted (source.key path) ++ " in " ++ source.describe

end BeamRun.Settings

/-! How work on options can fail, and how each failure is told to a caller. -/

namespace BeamRun

inductive OptionsFailure where
  | rejected (violations : Violations)
  | unsoundDefaults (violations : Violations)
  | notAnObject (found : Json.Kind)
  | unknownLiteral (field : Field) (literal : String)
  | malformed (e : Json.ReadError)
  | unreadable (path reason : String)
  | settingsMissing (path : String)
  | settingsInvalid (fault : Settings.Fault)
  deriving DecidableEq

def OptionsFailure.message : OptionsFailure → String
  | rejected vs => "Simulation options rejected: " ++ vs.text
  | unsoundDefaults vs => "Default simulation options are invalid: " ++ vs.text
  | notAnObject found => "Raw options must be a JSON object, found " ++ found.name
  | unknownLiteral f literal => "Unknown " ++ f.name ++ " literal: " ++ Text.quoted literal
  | malformed e => "Options payload parsing failed: " ++ e.message
  | unreadable path reason => "Failed to read " ++ path ++ ": " ++ reason
  | settingsMissing path => "Validator settings file not found: " ++ path
  | settingsInvalid fault => "Validator settings could not be loaded: " ++ fault.message

inductive FailureKind where
  | validation
  | precondition
  | configuration
  | serialization
  | io
  | other
  deriving DecidableEq, Repr

namespace FailureKind

def code : FailureKind → String
  | validation => "VALIDATION_1000"
  | precondition => "INTERNAL_9001"
  | configuration => "CONFIG_2001"
  | serialization => "VALIDATION_1005"
  | io => "INTERNAL_9999"
  | other => "INTERNAL_9999"

/-- Whether a change of the input can mend it. -/
def isUserError : FailureKind → Bool
  | validation => true
  | serialization => true
  | _ => false

def lead : FailureKind → String
  | validation => "Validation error: "
  | precondition => "Precondition violated: "
  | configuration => "Configuration error: "
  | serialization => "Serialization error: "
  | io => "I/O error: "
  | other => ""

end FailureKind

structure Failure where
  kind : FailureKind
  reason : String
  deriving DecidableEq, Repr

namespace Failure

def message (f : Failure) : String := f.kind.lead ++ f.reason

def event (context : String) (f : Failure) : Event :=
  ⟨.error, .failures, "Transport engine error occurred",
    [("context", .text context), ("error_code", .text f.kind.code), ("error", .text f.message)]⟩

/-- The last words of a program that failed; a reason from outside is repeated as the cause. -/
def report (f : Failure) : String :=
  let cause := if f.kind = .io then "\n\nCaused by:\n" ++ indented f.reason else ""
  "Error: " ++ f.message ++ cause ++ "\n"
where
  indented (reason : String) : String :=
    "\n".intercalate ((Text.pieces '\n' reason).map ("    " ++ ·))

end Failure

def OptionsFailure.kind : OptionsFailure → FailureKind
  | rejected _ => .validation
  | unknownLiteral _ _ => .validation
  | unsoundDefaults _ => .precondition
  | notAnObject _ => .serialization
  | malformed _ => .serialization
  | unreadable _ _ => .io
  | settingsMissing _ => .configuration
  | settingsInvalid _ => .configuration

def OptionsFailure.failure (f : OptionsFailure) : Failure :=
  match f with
  | unreadable path reason => ⟨.io, path ++ ": " ++ reason⟩
  | other => ⟨f.kind, other.message⟩

/-- Told in other words a failure is one still, and a success is what it was. -/
theorem mapError_eq_ok_iff {ε ε' α : Type} {x : Except ε α} {tell : ε → ε'} {a : α} :
    x.mapError tell = .ok a ↔ x = .ok a := by
  constructor
  · intro told
    cases x with
    | error e => cases told
    | ok b =>
      cases told
      rfl
  · rintro rfl
    rfl

end BeamRun
