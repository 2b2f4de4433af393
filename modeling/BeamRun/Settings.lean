import BeamRun.Json.Record
import BeamRun.Json.Value

namespace BeamRun

inductive UnknownKeyPolicy where
  | ignore
  | reject
  deriving DecidableEq, Repr

namespace UnknownKeyPolicy

def all : List UnknownKeyPolicy := [ignore, reject]

def name : UnknownKeyPolicy → String
  | ignore => "ignore"
  | reject => "reject"

def label : UnknownKeyPolicy → String
  | ignore => "Ignore"
  | reject => "Reject"

end UnknownKeyPolicy

inductive NeutronCutoffPolicy where
  | always
  | whenFastNeutronTransport
  deriving DecidableEq, Repr

namespace NeutronCutoffPolicy

def all : List NeutronCutoffPolicy := [always, whenFastNeutronTransport]

def name : NeutronCutoffPolicy → String
  | always => "always"
  | whenFastNeutronTransport => "when_fast_neutron_transport"

def label : NeutronCutoffPolicy → String
  | always => "Always"
  | whenFastNeutronTransport => "WhenFastNeutronTransport"

def applies (p : NeutronCutoffPolicy) (fastNeutronTransportOn : Bool) : Bool :=
  match p with
  | always => true
  | whenFastNeutronTransport => fastNeutronTransportOn

end NeutronCutoffPolicy

structure Settings where
  unknownKeys : UnknownKeyPolicy
  neutronCutoff : NeutronCutoffPolicy
  deriving DecidableEq, Repr

namespace Settings

def lenient : Settings := ⟨.ignore, .always⟩

def strict : Settings := ⟨.reject, .always⟩

def toJson (s : Settings) : Json :=
  .object
    [("unknown_keys", .string s.unknownKeys.name), ("neutron_cutoff", .string s.neutronCutoff.name)]

structure Draft where
  unknownKeys : Option UnknownKeyPolicy
  neutronCutoff : Option NeutronCutoffPolicy

/-- What the draft leaves open is lenient. -/
def Draft.finish (d : Draft) : Settings :=
  ⟨d.unknownKeys.getD lenient.unknownKeys, d.neutronCutoff.getD lenient.neutronCutoff⟩

def slots : List (Json.Reader.Slot Draft) :=
  [{ name := "unknown_keys"
     filled := (·.unknownKeys.isSome)
     read := do
      let p ← Json.Reader.oneOf (UnknownKeyPolicy.all.map fun p => (p.name, p))
      pure fun d => { d with unknownKeys := some p } },
    { name := "neutron_cutoff"
      filled := (·.neutronCutoff.isSome)
      read := do
      let p ← Json.Reader.oneOf (NeutronCutoffPolicy.all.map fun p => (p.name, p))
      pure fun d => { d with neutronCutoff := some p } }]

def reader : Json.Reader Settings :=
  Json.Reader.record "struct ValidatorSettings" slots ⟨none, none⟩
    (fun d => .ok d.finish) (fun _ d => .ok d.finish)

def parse (text : String) : Except Json.ReadError Settings := reader.run text

end Settings
end BeamRun
