import BeamRun.Logging.Config

/-! The command line: flags, parameters and files, taken from left to right. -/

namespace BeamRun

structure Input where
  file : String
  defaults : Option String
  settings : Option String
  submittedBy : Option String
  requestId : Option String
  deriving DecidableEq, Repr

inductive OutputFormat where
  | text
  | json
  deriving DecidableEq, Repr

inductive Command where
  | validate (input : Input) (format : OutputFormat)
  | cards (input : Input)
  | defaults (pretty : Bool)
  deriving DecidableEq, Repr

structure Invocation where
  verbose : Bool
  jsonLogs : Bool
  command : Command
  deriving DecidableEq, Repr

def Invocation.logging (i : Invocation) : Logging.Config :=
  ⟨if i.verbose then "debug" else "warn", i.jsonLogs, i.verbose⟩

namespace CommandLine

inductive Usage where
  | help
  | version
  | helpForNothing
  | missingSubcommand
  | invalidSubcommand
  | missingArgument
  | unknownArgument
  | tooManyValues
  | invalidValue
  | conflict
  deriving DecidableEq, Repr

def Usage.name : Usage → String
  | help => "DisplayHelp"
  | version => "DisplayVersion"
  | helpForNothing => "DisplayHelpOnMissingArgumentOrSubcommand"
  | missingSubcommand => "MissingSubcommand"
  | invalidSubcommand => "InvalidSubcommand"
  | missingArgument => "MissingRequiredArgument"
  | unknownArgument => "UnknownArgument"
  | tooManyValues => "TooManyValues"
  | invalidValue => "InvalidValue"
  | conflict => "ArgumentConflict"

def Usage.exitCode : Usage → UInt8
  | help => 0
  | version => 0
  | _ => 2

def programName : String := "transport"

def versionText : String := programName ++ " 0.1.0\n"

def helpText : String :=
  "Validate simulation options and prepare them for the transport backend\n\n" ++
    "Usage: " ++ programName ++ " [OPTIONS] <COMMAND>\n\n" ++
    "Commands:\n" ++
    "  validate FILE  Print the normalized options or every error\n" ++
    "  cards FILE     Print the beam cards\n" ++
    "  defaults       Print the built-in default options\n"

inductive Flag where
  | verbose
  | jsonLogs
  | pretty
  | help
  | version
  deriving DecidableEq, Repr

def Flag.name : Flag → String
  | verbose => "verbose"
  | jsonLogs => "json-logs"
  | pretty => "pretty"
  | help => "help"
  | version => "version"

def Flag.letter? : Flag → Option Char
  | verbose => some 'v'
  | help => some 'h'
  | version => some 'V'
  | _ => none

inductive Parameter where
  | defaults
  | settings
  | submittedBy
  | requestId
  | format
  deriving DecidableEq, Repr

def Parameter.name : Parameter → String
  | defaults => "defaults"
  | settings => "settings"
  | submittedBy => "submitted-by"
  | requestId => "request-id"
  | format => "format"

def formats : List (String × OutputFormat) := [("text", .text), ("json", .json)]

/-- Names of files are not empty, formats are one of two words; any other text will do. -/
def Parameter.accepts (p : Parameter) (value : String) : Bool :=
  match p with
  | defaults => value != ""
  | settings => value != ""
  | submittedBy => true
  | requestId => true
  | format => (formats.lookup value).isSome

inductive Subcommand where
  | validate
  | cards
  | defaults
  deriving DecidableEq, Repr

namespace Subcommand

def all : List Subcommand := [validate, cards, defaults]

def name : Subcommand → String
  | validate => "validate"
  | cards => "cards"
  | defaults => "defaults"

def ofName? (s : String) : Option Subcommand := all.find? (·.name == s)

end Subcommand

structure Grammar where
  flags : List Flag
  parameters : List Parameter
  takesFile : Bool

def rootGrammar : Grammar := ⟨[.verbose, .jsonLogs, .help, .version], [], false⟩

def inputParameters : List Parameter := [.defaults, .settings, .submittedBy, .requestId]

def Subcommand.grammar : Subcommand → Grammar
  | validate => ⟨[.verbose, .jsonLogs, .help], .format :: inputParameters, true⟩
  | cards => ⟨[.verbose, .jsonLogs, .help], inputParameters, true⟩
  | defaults => ⟨[.verbose, .jsonLogs, .pretty, .help], [], false⟩

/-- Taken from the line but not looked at yet. -/
inductive Pending where
  | nothing
  | valueOf (p : Parameter)
  | given (p : Parameter) (value : String)
  | file (path : String)
  deriving DecidableEq, Repr

structure Progress where
  flags : List Flag
  values : List (Parameter × String)
  file : Option String
  pending : Pending
  /-- Whether two hyphens have ended the options. -/
  onlyFiles : Bool

namespace Progress

def start : Progress := ⟨[], [], none, .nothing, false⟩

def give (s : Progress) (p : Parameter) (value : String) : Except Usage Progress :=
  if (s.values.lookup p).isSome then .error .conflict
  else if p.accepts value then .ok { s with values := (p, value) :: s.values }
  else .error .invalidValue

def settle (s : Progress) : Except Usage Progress :=
  let cleared := { s with pending := .nothing }
  match s.pending with
  | .nothing => .ok s
  | .valueOf _ => .error .invalidValue
  | .given p value => cleared.give p value
  | .file path => if path = "" then .error .invalidValue else .ok { cleared with file := some path }

def raise (s : Progress) (f : Flag) : Except Usage Progress := do
  let s ← s.settle
  match f with
  | .help => throw .help
  | .version => throw .version
  | f => if f ∈ s.flags then throw .conflict else pure { s with flags := f :: s.flags }

/-- An argument behind two hyphens: a name, and perhaps a value behind an equals sign. -/
def long (g : Grammar) (s : Progress) (body : List Char) : Except Usage Progress :=
  let name := String.ofList (body.takeWhile (· ≠ '='))
  let attached := (body.dropWhile (· ≠ '=')).tail?
  match g.flags.find? (·.name == name), g.parameters.find? (·.name == name) with
  | some f, _ => if attached.isSome then .error .tooManyValues else s.raise f
  | none, some p => do
    let s ← s.settle
    match attached with
    | some value => s.give p (String.ofList value)
    | none => pure { s with pending := .valueOf p }
  | none, none => .error .unknownArgument

def short (g : Grammar) (s : Progress) (letters : List Char) : Except Usage Progress :=
  letters.foldlM (fun s c =>
    match g.flags.find? (·.letter? == some c) with
    | some f => s.raise f
    | none => .error .unknownArgument) s

def hasFile (s : Progress) : Bool :=
  match s.file, s.pending with
  | some _, _ => true
  | none, .file _ => true
  | none, _ => false

def positional (g : Grammar) (s : Progress) (arg : String) : Except Usage Progress :=
  if g.takesFile && !s.hasFile then do
    let s ← s.settle
    pure { s with pending := .file arg }
  else .error .unknownArgument

def step (g : Grammar) (s : Progress) (arg : String) : Except Usage Progress :=
  if s.onlyFiles then s.positional g arg
  else
    match arg.toList with
    | ['-', '-'] => .ok { s with onlyFiles := true }
    | '-' :: '-' :: body => s.long g body
    | '-' :: c :: letters => s.short g (c :: letters)
    | _ =>
      match s.pending with
      | .valueOf p => .ok { s with pending := .given p arg }
      | _ => s.positional g arg

end Progress

/-- The variable that stands in for a missing settings parameter. -/
def settingsVariable : String := "TRANSPORT_VALIDATOR_SETTINGS"

def Progress.input (s : Progress) : Except Usage Input :=
  match s.file with
  | none => .error .missingArgument
  | some file =>
    .ok ⟨file, s.values.lookup .defaults, s.values.lookup .settings, s.values.lookup .submittedBy,
      s.values.lookup .requestId⟩

/-- Takes a value from the environment where the line gave none. -/
def Progress.fallBack (s : Progress) (p : Parameter) (value : Option String) :
    Except Usage Progress :=
  match s.values.lookup p, value with
  | none, some value => s.give p value
  | _, _ => .ok s

def command (sub : Subcommand) (s : Progress) (settings : Option String) : Except Usage Command :=
  match sub with
  | .validate => do
    let s ← s.fallBack .settings settings
    let input ← s.input
    pure (.validate input (((s.values.lookup .format).bind fun word => formats.lookup word).getD .text))
  | .cards => do
    let s ← s.fallBack .settings settings
    pure (.cards (← s.input))
  | .defaults => .ok (.defaults (decide (Flag.pretty ∈ s.flags)))

/-- What the help subcommand answers: one name of a subcommand may follow. -/
def helpFor : List String → Usage
  | [] => .help
  | [name] => if name = "help" ∨ (Subcommand.ofName? name).isSome then .help else .invalidSubcommand
  | _ => .invalidSubcommand

def root (s : Progress) : List String → Except Usage (Progress × Subcommand × List String)
  | [] => .error (if s.flags.isEmpty then .helpForNothing else .missingSubcommand)
  | arg :: rest =>
    match Subcommand.ofName? arg with
    | some sub => if s.onlyFiles then .error .unknownArgument else .ok (s, sub, rest)
    | none =>
      if arg = "help" then
        .error (if s.onlyFiles then .unknownArgument else helpFor rest)
      else if s.onlyFiles ∨ arg.toList.head? ≠ some '-' ∨ arg = "-" then .error .invalidSubcommand
      else do
        let s ← s.step rootGrammar arg
        root s rest

/-- The invocation that a line stands for; `settings` is the value of the settings variable. -/
def parse (settings : Option String) (args : List String) : Except Usage Invocation := do
  let (top, sub, rest) ← root .start args
  let s ← rest.foldlM (fun (s : Progress) arg => s.step sub.grammar arg) Progress.start
  let s ← s.settle
  let c ← command sub s settings
  let raised (f : Flag) : Bool := f ∈ top.flags || f ∈ s.flags
  pure ⟨raised .verbose, raised .jsonLogs, c⟩

end CommandLine
end BeamRun
