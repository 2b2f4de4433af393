import BeamRun.Decimal
import BeamRun.Failure
import BeamRun.Options

namespace BeamRun.Column

def fieldWidth : Nat := 8

def keywordWidth : Nat := 16

def rightAligned (cs : List Char) : List Char := cs.leftpad fieldWidth ' '

def withoutTrailingZeros (cs : List Char) : List Char := (cs.reverse.dropWhile (· = '0')).reverse

/-- A number with its point, cut to the field and without zeros at the end; nothing where the cut takes
the point away. -/
def real (x : Binary64) : Option (List Char) :=
  let cut := (Decimal.fixedText fieldWidth x).take fieldWidth
  if '.' ∈ cut then some (rightAligned (withoutTrailingZeros cut)) else none

def whole (i : Int) : Option (List Char) :=
  let field := rightAligned (Decimal.ofInt i)
  if field.length = fieldWidth then some field else none

def keyword (name : List Char) : List Char := name.rightpad keywordWidth ' '

end BeamRun.Column

/-! The cards of a beam file that options decide. -/

namespace BeamRun

inductive Card where
  | apcorr
  | deltae
  | demin
  | mscat
  | neutrfast
  | neutrlcut
  | nstat
  | nucre
  | stragg
  deriving DecidableEq, Repr

namespace Card

def all : List Card :=
  [apcorr, deltae, demin, mscat, neutrfast, neutrlcut, nstat, nucre, stragg]

def keyword : Card → String
  | apcorr => "APCORR"
  | deltae => "DELTAE"
  | demin => "DEMIN"
  | mscat => "MSCAT"
  | neutrfast => "NEUTRFAST"
  | neutrlcut => "NEUTRLCUT"
  | nstat => "NSTAT"
  | nucre => "NUCRE"
  | stragg => "STRAGG"

def ofKeyword? (s : String) : Option Card := all.find? (·.keyword == s)

inductive Entry where
  | real (x : Binary64)
  | whole (i : Int)
  | count (n : UInt64)
  deriving DecidableEq, Repr

/-- A count as a signed number of 64 bits, which it is not if it needs all of them. -/
def signed? (n : UInt64) : Option Int :=
  if n.toNat < 0x8000000000000000 then some n.toNat else none

def Entry.column : Entry → Option (List Char)
  | real x => Column.real x
  | whole i => Column.whole i
  | count n => (signed? n).bind Column.whole

def Entry.text : Entry → String
  | real x => Decimal.plainText x
  | whole i => String.ofList (Decimal.ofInt i)
  | count n => countText n

def switch (on : Bool) : Entry := .whole (if on then 1 else 0)

def scattering : Scattering → Entry
  | .gaussian => .whole 1
  | .moliere => .whole 2

def straggling : Straggling → Entry
  | .gaussian => .whole 1
  | .vavilov => .whole 2

/-- Interval between checkpoints that stands for none. -/
def noCheckpoint : Entry := .whole (-1)

def percent (x : Binary64) : Binary64 := x.div (.ofNat 100)

def entries (o : Options) : Card → List Entry
  | apcorr => [switch o.antiparticleCorrectionOn]
  | deltae => [.real (percent o.meanEnergyLoss)]
  | demin => [.real o.minEnergyLoss]
  | mscat => [scattering o.scatteringType]
  | neutrfast => [switch o.fastNeutronTransportOn]
  | neutrlcut => [.real o.lowEnergyNeutronCutOff]
  | nstat => [.count o.numberOfGeneratedParticles, noCheckpoint]
  | nucre => [switch o.nuclearCorrectionOn]
  | stragg => [straggling o.energyStraggling]

end Card

structure TooWide where
  card : Card
  value : String
  deriving DecidableEq, Repr

namespace TooWide

def message (t : TooWide) : String :=
  t.card.keyword ++ " value " ++ t.value ++ " does not fit an 8-column field"

def failure (t : TooWide) : Failure := ⟨.serialization, t.message⟩

end TooWide

namespace Card

def render (o : Options) (c : Card) : Except TooWide (List Char) :=
  (c.entries o).foldlM (fun content entry =>
    match entry.column with
    | some field => .ok (content ++ field)
    | none => .error ⟨c, entry.text⟩) []

def renderAll (o : Options) : Except TooWide (List (Card × List Char)) :=
  all.mapM fun c => return (c, ← c.render o)

def line (c : Card) (content : List Char) : List Char :=
  Column.keyword c.keyword.toList ++ content ++ ['\n']

def fileText (cards : List (Card × List Char)) : String :=
  String.ofList (cards.flatMap fun entry => entry.1.line entry.2)

end Card

namespace Event

def cards : Event := ⟨.debug, .cards, "Serializing beam cards", []⟩

def card (c : Card) (content : List Char) : Event :=
  ⟨.debug, .cards, "Writing beam card",
    [("card", .text c.keyword), ("content", .text (String.ofList content))]⟩

end Event

def Options.cards (o : Options) : Logged (Except TooWide String) := do
  Logged.tell .cards
  match Card.renderAll o with
  | .ok cards =>
    Logged.tellAll (cards.map fun entry => .card entry.1 entry.2)
    pure (.ok (Card.fileText cards))
  | .error t => pure (.error t)

end BeamRun
