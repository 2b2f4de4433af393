import BeamRun.Json.Value
import BeamRun.Options
import BeamRun.Text.Quoted

namespace BeamRun

inductive Misfit where
  | mistyped (found : Json.Kind)
  | fractional (x : FiniteNumber)
  | negative (x : Binary64)
  | belowOne (n : Int)
  | unlisted (literal : String)
  deriving DecidableEq

inductive Defect where
  | misfit (field : Field) (cause : Misfit)
  | unknown (key : String)
  | lossesReversed (minimum mean : Binary64)
  | countsReversed (recorded generated : UInt64)
  deriving DecidableEq

inductive ViolationKind where
  | typeMismatch
  | domainViolation
  | crossFieldViolation
  | unknownField
  deriving DecidableEq, Repr

namespace ViolationKind

def name : ViolationKind → String
  | typeMismatch => "TypeMismatch"
  | domainViolation => "DomainViolation"
  | crossFieldViolation => "CrossFieldViolation"
  | unknownField => "UnknownField"

def code : ViolationKind → String
  | typeMismatch => "VALIDATION_1001"
  | domainViolation => "VALIDATION_1002"
  | crossFieldViolation => "VALIDATION_1003"
  | unknownField => "VALIDATION_1004"

end ViolationKind

/-- A defect in words, as it is shown beside a form field. -/
structure Violation where
  field : String
  kind : ViolationKind
  message : String
  related : Option String
  deriving DecidableEq, Repr

namespace Misfit

def kind : Misfit → ViolationKind
  | mistyped _ => .typeMismatch
  | fractional _ => .typeMismatch
  | negative _ => .domainViolation
  | belowOne _ => .domainViolation
  | unlisted _ => .domainViolation

def message (d : Domain) : Misfit → String
  | mistyped found => "expected " ++ d.describe ++ ", found " ++ found.name
  | fractional x => "expected an integer, found " ++ (Number.real x).text
  | negative x => "must be >= 0 (got " ++ Decimal.plainText x ++ ")"
  | belowOne n => "must be >= 1 (got " ++ String.ofList (Decimal.ofInt n) ++ ")"
  | unlisted literal =>
    "must be one of: " ++ ", ".intercalate (d.literals.getD []) ++
      " (got " ++ Text.quoted literal ++ ")"

end Misfit

def countText (n : UInt64) : String := String.ofList (Decimal.digits n.toNat)

def Defect.violation : Defect → Violation
  | misfit f cause => ⟨f.name, cause.kind, cause.message f.domain, none⟩
  | unknown key => ⟨key, .unknownField, "is not a recognized simulation option", none⟩
  | lossesReversed minimum mean =>
    ⟨Field.minEnergyLoss.name, .crossFieldViolation,
      "must not exceed meanEnergyLoss (" ++ Decimal.plainText minimum ++ " > " ++
        Decimal.plainText mean ++ ")",
      some Field.meanEnergyLoss.name⟩
  | countsReversed recorded generated =>
    ⟨Field.numberOfRecordedParticles.name, .crossFieldViolation,
      "must not exceed numberOfGeneratedParticles (" ++ countText recorded ++ " > " ++
        countText generated ++ ")",
      some Field.numberOfGeneratedParticles.name⟩

namespace Violation

def concerns (v : Violation) (field : String) : Bool :=
  v.field == field || v.related == some field

def text (v : Violation) : String := v.field ++ ": " ++ v.message

def toJson (v : Violation) : Json :=
  let related := v.related.toList.map fun field => ("relatedField", Json.string field)
  .object
    ([("field", .string v.field), ("kind", .string v.kind.name), ("message", .string v.message)] ++
      related)

end Violation

abbrev Violations := List Violation

namespace Violations

def forField (vs : Violations) (field : String) : Violations := vs.filter (·.concerns field)

def countOf (vs : Violations) (kind : ViolationKind) : Nat := vs.countP (·.kind == kind)

def text (vs : Violations) : String :=
  toString vs.length ++ (if vs.length = 1 then " error" else " errors") ++
    (if vs.isEmpty then "" else ": ") ++ "; ".intercalate (vs.map Violation.text)

def toJson (vs : Violations) : Json := .array (vs.map Violation.toJson)

end Violations
end BeamRun
