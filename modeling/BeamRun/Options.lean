import BeamRun.Field

namespace BeamRun

structure Options where
  antiparticleCorrectionOn : Bool
  nuclearCorrectionOn : Bool
  /-- Percent of the kinetic energy lost in a step. -/
  meanEnergyLoss : Binary64
  /-- In MeV. -/
  minEnergyLoss : Binary64
  scatteringType : Scattering
  energyStraggling : Straggling
  fastNeutronTransportOn : Bool
  /-- In MeV. -/
  lowEnergyNeutronCutOff : Binary64
  recordSecondaryNeutronCreation : Bool
  numberOfGeneratedParticles : UInt64
  numberOfRecordedParticles : UInt64
  deriving DecidableEq, Repr

namespace Options

def builtin : Options where
  antiparticleCorrectionOn := false
  nuclearCorrectionOn := true
  meanEnergyLoss := .ofNat 1
  minEnergyLoss := .ofRatio false 25 1000
  scatteringType := .moliere
  energyStraggling := .vavilov
  fastNeutronTransportOn := true
  lowEnergyNeutronCutOff := .zero
  recordSecondaryNeutronCreation := false
  numberOfGeneratedParticles := 1000
  numberOfRecordedParticles := 1000

def get (o : Options) : (f : Field) → f.Value
  | .antiparticleCorrectionOn => o.antiparticleCorrectionOn
  | .nuclearCorrectionOn => o.nuclearCorrectionOn
  | .meanEnergyLoss => o.meanEnergyLoss
  | .minEnergyLoss => o.minEnergyLoss
  | .scatteringType => o.scatteringType
  | .energyStraggling => o.energyStraggling
  | .fastNeutronTransportOn => o.fastNeutronTransportOn
  | .lowEnergyNeutronCutOff => o.lowEnergyNeutronCutOff
  | .recordSecondaryNeutronCreation => o.recordSecondaryNeutronCreation
  | .numberOfGeneratedParticles => o.numberOfGeneratedParticles
  | .numberOfRecordedParticles => o.numberOfRecordedParticles

def build (value : (f : Field) → f.Value) : Options where
  antiparticleCorrectionOn := value .antiparticleCorrectionOn
  nuclearCorrectionOn := value .nuclearCorrectionOn
  meanEnergyLoss := value .meanEnergyLoss
  minEnergyLoss := value .minEnergyLoss
  scatteringType := value .scatteringType
  energyStraggling := value .energyStraggling
  fastNeutronTransportOn := value .fastNeutronTransportOn
  lowEnergyNeutronCutOff := value .lowEnergyNeutronCutOff
  recordSecondaryNeutronCreation := value .recordSecondaryNeutronCreation
  numberOfGeneratedParticles := value .numberOfGeneratedParticles
  numberOfRecordedParticles := value .numberOfRecordedParticles

def set (o : Options) : (f : Field) → f.Value → Options
  | .antiparticleCorrectionOn, x => { o with antiparticleCorrectionOn := x }
  | .nuclearCorrectionOn, x => { o with nuclearCorrectionOn := x }
  | .meanEnergyLoss, x => { o with meanEnergyLoss := x }
  | .minEnergyLoss, x => { o with minEnergyLoss := x }
  | .scatteringType, x => { o with scatteringType := x }
  | .energyStraggling, x => { o with energyStraggling := x }
  | .fastNeutronTransportOn, x => { o with fastNeutronTransportOn := x }
  | .lowEnergyNeutronCutOff, x => { o with lowEnergyNeutronCutOff := x }
  | .recordSecondaryNeutronCreation, x => { o with recordSecondaryNeutronCreation := x }
  | .numberOfGeneratedParticles, x => { o with numberOfGeneratedParticles := x }
  | .numberOfRecordedParticles, x => { o with numberOfRecordedParticles := x }

theorem get_build (value : (f : Field) → f.Value) (f : Field) : (build value).get f = value f := by
  cases f <;> rfl

theorem build_get (o : Options) : build o.get = o := rfl

theorem ext_get {a b : Options} (h : ∀ f, a.get f = b.get f) : a = b := by
  rw [← build_get a, ← build_get b, funext h]

@[simp] theorem get_set_self (o : Options) (f : Field) (x : f.Value) : (o.set f x).get f = x := by
  cases f <;> rfl

theorem get_set_of_ne (o : Options) {f g : Field} (x : f.Value) (h : g ≠ f) :
    (o.set f x).get g = o.get g := by
  cases f <;> cases g <;> first | rfl | exact absurd rfl h

def valueOf (o : Options) (f : Field) : Json := f.domain.encode (o.get f)

/-- The members of the record in the order in which they are written, under the words of their names. -/
def members (o : Options) : List (String × Json) :=
  [("antiparticle_correction_on", .bool o.antiparticleCorrectionOn),
    ("nuclear_correction_on", .bool o.nuclearCorrectionOn),
    ("mean_energy_loss", .ofBinary64 o.meanEnergyLoss),
    ("min_energy_loss", .ofBinary64 o.minEnergyLoss),
    ("scattering_type", o.scatteringType.toJson),
    ("energy_straggling", o.energyStraggling.toJson),
    ("fast_neutron_transport_on", .bool o.fastNeutronTransportOn),
    ("low_energy_neutron_cut_off", .ofBinary64 o.lowEnergyNeutronCutOff),
    ("record_secondary_neutron_creation", .bool o.recordSecondaryNeutronCreation),
    ("number_of_generated_particles", .ofCount o.numberOfGeneratedParticles),
    ("number_of_recorded_particles", .ofCount o.numberOfRecordedParticles)]

/-- The whole document: every member under its name in camel case. -/
def toJson (o : Options) : Json := .object (o.members.map fun m => (Text.camelCase m.1, m.2))

/-- Equality in which the two zeros are the same. -/
def same (a b : Options) : Bool :=
  a.antiparticleCorrectionOn == b.antiparticleCorrectionOn &&
    a.nuclearCorrectionOn == b.nuclearCorrectionOn &&
    a.meanEnergyLoss.sameValue b.meanEnergyLoss &&
    a.minEnergyLoss.sameValue b.minEnergyLoss &&
    a.scatteringType == b.scatteringType &&
    a.energyStraggling == b.energyStraggling &&
    a.fastNeutronTransportOn == b.fastNeutronTransportOn &&
    a.lowEnergyNeutronCutOff.sameValue b.lowEnergyNeutronCutOff &&
    a.recordSecondaryNeutronCreation == b.recordSecondaryNeutronCreation &&
    a.numberOfGeneratedParticles == b.numberOfGeneratedParticles &&
    a.numberOfRecordedParticles == b.numberOfRecordedParticles

end Options
end BeamRun
