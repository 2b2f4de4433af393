import BeamRun.Json.Value
import BeamRun.Text

/-! The catalogue of simulation options: their names, their former names and the values they take. -/

namespace BeamRun

inductive Scattering where
  | gaussian
  | moliere
  deriving DecidableEq, Repr

inductive Straggling where
  | vavilov
  | gaussian
  deriving DecidableEq, Repr

namespace Scattering

def all : List Scattering := [gaussian, moliere]

def name : Scattering → String
  | gaussian => "gaussian"
  | moliere => "moliere"

def ofName? (s : String) : Option Scattering := all.find? (·.name == s)

def title : Scattering → String
  | gaussian => "Gaussian"
  | moliere => "Moliere"

def toJson (s : Scattering) : Json := .string (Text.lowerCase s.title)

end Scattering

namespace Straggling

def all : List Straggling := [vavilov, gaussian]

def name : Straggling → String
  | vavilov => "vavilov"
  | gaussian => "gaussian"

def ofName? (s : String) : Option Straggling := all.find? (·.name == s)

def title : Straggling → String
  | vavilov => "Vavilov"
  | gaussian => "Gaussian"

def toJson (s : Straggling) : Json := .string (Text.lowerCase s.title)

end Straggling

inductive Domain where
  | flag
  /-- A number that is not negative. -/
  | amount
  /-- A number of either sign. -/
  | number
  /-- A whole number from one up. -/
  | count
  | scattering
  | straggling
  deriving DecidableEq, Repr

namespace Domain

@[reducible] def Value : Domain → Type
  | flag => Bool
  | amount => Binary64
  | number => Binary64
  | count => UInt64
  | scattering => Scattering
  | straggling => Straggling

def describe : Domain → String
  | flag => "a boolean"
  | amount => "a number"
  | number => "a number"
  | count => "an integer"
  | scattering => "a string"
  | straggling => "a string"

def literals : Domain → Option (List String)
  | scattering => some (Scattering.all.map (·.name))
  | straggling => some (Straggling.all.map (·.name))
  | _ => none

def encode : (d : Domain) → d.Value → Json
  | flag, b => .bool b
  | amount, x => .ofBinary64 x
  | number, x => .ofBinary64 x
  | count, n => .ofCount n
  | scattering, s => .string s.name
  | straggling, s => .string s.name

end Domain

inductive Field where
  | antiparticleCorrectionOn
  | nuclearCorrectionOn
  | meanEnergyLoss
  | minEnergyLoss
  | scatteringType
  | energyStraggling
  | fastNeutronTransportOn
  | lowEnergyNeutronCutOff
  | recordSecondaryNeutronCreation
  | numberOfGeneratedParticles
  | numberOfRecordedParticles
  deriving DecidableEq, Repr

namespace Field

/-- The catalogue order, in which fields are checked and listed. -/
def all : List Field :=
  [antiparticleCorrectionOn, nuclearCorrectionOn, meanEnergyLoss, minEnergyLoss, scatteringType,
    energyStraggling, fastNeutronTransportOn, lowEnergyNeutronCutOff, recordSecondaryNeutronCreation,
    numberOfGeneratedParticles, numberOfRecordedParticles]

def name : Field → String
  | antiparticleCorrectionOn => "antiparticleCorrectionOn"
  | nuclearCorrectionOn => "nuclearCorrectionOn"
  | meanEnergyLoss => "meanEnergyLoss"
  | minEnergyLoss => "minEnergyLoss"
  | scatteringType => "scatteringType"
  | energyStraggling => "energyStraggling"
  | fastNeutronTransportOn => "fastNeutronTransportOn"
  | lowEnergyNeutronCutOff => "lowEnergyNeutronCutOff"
  | recordSecondaryNeutronCreation => "recordSecondaryNeutronCreation"
  | numberOfGeneratedParticles => "numberOfGeneratedParticles"
  | numberOfRecordedParticles => "numberOfRecordedParticles"

/-- Spellings of earlier clients, which are still understood. -/
def formerNames : Field → List String
  | antiparticleCorrectionOn => ["antyparticleCorrectionOn"]
  | nuclearCorrectionOn => ["nuclearCorectionOn", "nuclearReactionsOn"]
  | _ => []

/-- All spellings, the one that wins over the others first. -/
def spellings (f : Field) : List String := f.name :: f.formerNames

def ofKey? (key : String) : Option Field := all.find? (·.spellings.contains key)

@[reducible] def domain : Field → Domain
  | antiparticleCorrectionOn => .flag
  | nuclearCorrectionOn => .flag
  | meanEnergyLoss => .amount
  | minEnergyLoss => .amount
  | scatteringType => .scattering
  | energyStraggling => .straggling
  | fastNeutronTransportOn => .flag
  | lowEnergyNeutronCutOff => .number
  | recordSecondaryNeutronCreation => .flag
  | numberOfGeneratedParticles => .count
  | numberOfRecordedParticles => .count

abbrev Value (f : Field) : Type := f.domain.Value

end Field
end BeamRun
