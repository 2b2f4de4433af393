import BeamRun.Failure
import BeamRun.Json.Reader
import BeamRun.Settings

namespace BeamRun

abbrev Payload := TextMap Json

namespace Payload

/-- The entry that counts for a field: that of its first spelling which is there. -/
def lookup (p : Payload) (f : Field) : Option (String × Json) :=
  f.spellings.findSome? fun key => (p.get? key).map (key, ·)

/-- Keys that spell no field, in ascending order. -/
def unknownKeys (p : Payload) : List String :=
  p.keys.filter fun key => (Field.ofKey? key).isNone

def ofOptions (o : Options) : Payload :=
  TextMap.ofList (Field.all.map fun f => (f.name, o.valueOf f))

def ofJson : Json → Except OptionsFailure Payload
  | .object entries => .ok (TextMap.ofList entries)
  | v => .error (.notAnObject v.kind)

def parse (text : String) : Except OptionsFailure Payload :=
  match Json.parse text with
  | .ok v => ofJson v
  | .error e => .error (.malformed e)

end Payload

/-! Checking a payload over defaults: a walk over the catalogue, the checks after it, and the verdict. -/

def Domain.read : (d : Domain) → Json → Except Misfit d.Value
  | .flag, .bool b => .ok b
  | .amount, .number n =>
    let x := n.toBinary64
    if Binary64.zero ≤ x then .ok x else .error (.negative x)
  | .number, .number n => .ok n.toBinary64
  | .count, .number (.whole n) =>
    if 1 ≤ n.val then .ok (UInt64.ofNat n.val.toNat) else .error (.belowOne n.val)
  | .count, .number (.real x) => .error (.fractional x)
  | .scattering, .string s => (Scattering.ofName? s).elim (.error (.unlisted s)) .ok
  | .straggling, .string s => (Straggling.ofName? s).elim (.error (.unlisted s)) .ok
  | _, v => .error (.mistyped v.kind)

def Field.read (f : Field) (v : Json) : Except Misfit f.Value := f.domain.read v

def Options.apply (o : Options) (f : Field) (v : Json) : Except Misfit Options :=
  (f.read v).map (o.set f)

namespace Event

def unsoundDefaults (vs : Violations) : Event :=
  ⟨.error, .validation, "Rejecting invalid default simulation options", [("errors", .text vs.text)]⟩

def formerName (f : Field) (key : String) : Event :=
  ⟨.debug, .validation, "Accepted legacy option key",
    [("field", .text f.name), ("alias", .text key)]⟩

def accepted (p : Payload) : Event :=
  ⟨.debug, .validation, "Simulation options accepted", [("fields", .count p.size)]⟩

def rejected (vs : Violations) : Event :=
  ⟨.warn, .validation, "Simulation options rejected",
    [("error_count", .count vs.length), ("code", .text FailureKind.validation.code)]⟩

end Event

structure Walk where
  merged : Options
  defects : List Defect
  /-- Fields whose value does not fit, so that nothing is concluded from it. -/
  failed : List Field

namespace Walk

def start (defaults : Options) : Walk := ⟨defaults, [], []⟩

def fail (w : Walk) (f : Field) (cause : Misfit) : Walk :=
  { w with defects := w.defects ++ [.misfit f cause], failed := f :: w.failed }

/-- A flag that cannot be read counts as on. -/
def fastTransport (w : Walk) : Bool :=
  w.failed.contains .fastNeutronTransportOn || w.merged.fastNeutronTransportOn

def fits (w : Walk) (f : Field) : Bool := !w.failed.contains f

/-- Values are compared only where both of them fit. -/
def pairDefects (w : Walk) (smaller greater : Field) (reversed : smaller.Value → greater.Value → Prop)
    [∀ x y, Decidable (reversed x y)] (defect : smaller.Value → greater.Value → Defect) :
    List Defect :=
  if w.fits smaller ∧ w.fits greater ∧ reversed (w.merged.get smaller) (w.merged.get greater) then
    [defect (w.merged.get smaller) (w.merged.get greater)]
  else []

def lossDefects (w : Walk) : List Defect :=
  w.pairDefects .minEnergyLoss .meanEnergyLoss (fun (minimum mean : Binary64) => mean < minimum)
    .lossesReversed

def countDefects (w : Walk) : List Defect :=
  w.pairDefects .numberOfRecordedParticles .numberOfGeneratedParticles
    (fun (recorded generated : UInt64) => generated < recorded) .countsReversed

end Walk

namespace Settings

/-- The sign of the effective cut-off: a harmless default matters once fast transport is on. -/
def checkCutOff (s : Settings) (w : Walk) : Walk :=
  if s.neutronCutoff.applies w.fastTransport ∧ ¬ Binary64.zero ≤ w.merged.lowEnergyNeutronCutOff then
    w.fail .lowEnergyNeutronCutOff (.negative w.merged.lowEnergyNeutronCutOff)
  else w

/-- What is left to check of a field once its value is in place. -/
def settle (s : Settings) (w : Walk) (f : Field) : Walk :=
  if f = .lowEnergyNeutronCutOff then s.checkCutOff w else w

def visit (s : Settings) (p : Payload) (w : Walk) (f : Field) : Logged Walk :=
  match p.lookup f with
  | none => pure (s.settle w f)
  | some (key, v) => do
    if key ≠ f.name then Logged.tell (.formerName f key)
    match w.merged.apply f v with
    | .ok merged => pure (s.settle { w with merged := merged } f)
    | .error cause => pure (w.fail f cause)

def walk (s : Settings) (p : Payload) (defaults : Options) : Logged Walk :=
  Field.all.foldlM (s.visit p) (.start defaults)

def unknownDefects (s : Settings) (p : Payload) : List Defect :=
  match s.unknownKeys with
  | .ignore => []
  | .reject => p.unknownKeys.map Defect.unknown

/-- The payload merged into defaults, and every defect on the way. -/
def collect (s : Settings) (p : Payload) (defaults : Options) : Logged (Options × List Defect) := do
  let w ← s.walk p defaults
  pure (w.merged, w.defects ++ s.unknownDefects p ++ w.lossDefects ++ w.countDefects)

/-- What is wrong with complete options, taken as a payload over themselves. -/
def inspect (s : Settings) (o : Options) : Logged Violations := do
  let found ← s.collect (.ofOptions o) o
  pure (found.2.map Defect.violation)

def audit (s : Settings) (o : Options) : Violations := (s.inspect o).result

/-- The verdict on a payload over defaults, with what is logged on the way to it. -/
def validate (s : Settings) (p : Payload) (defaults : Options) :
    Logged (Except OptionsFailure Options) := do
  let unsound ← s.inspect defaults
  if unsound.isEmpty then
    let found ← s.collect p defaults
    let violations := found.2.map Defect.violation
    if violations.isEmpty then
      Logged.tell (.accepted p)
      pure (.ok found.1)
    else
      Logged.tell (.rejected violations)
      pure (.error (.rejected violations))
  else
    Logged.tell (.unsoundDefaults unsound)
    pure (.error (.unsoundDefaults unsound))

def judge (s : Settings) (p : Payload) (defaults : Options) : Except OptionsFailure Options :=
  (s.validate p defaults).result

end Settings
end BeamRun
