import BeamRun.Binary64

namespace BeamRun.Decimal

def digits (n : Nat) : List Char := Nat.toDigits 10 n

def powerOfTen (k : Nat) : Nat := Nat.pow 10 k

def digitValue (c : Char) : Nat := c.toNat - '0'.toNat

/-- The number that a run of digits writes after the digits of `start`. -/
def valueAfter (start : Nat) (cs : List Char) : Nat :=
  cs.foldl (fun n c => 10 * n + digitValue c) start

def value (cs : List Char) : Nat := valueAfter 0 cs

def ofInt (i : Int) : List Char :=
  if i < 0 then '-' :: digits i.natAbs else digits i.natAbs

def padded (width n : Nat) : List Char := (digits n).leftpad width '0'

def isHexDigit (c : Char) : Bool :=
  c.isDigit || ('a' ≤ c && c ≤ 'f') || ('A' ≤ c && c ≤ 'F')

def hexDigitValue (c : Char) : Nat :=
  if c.isDigit then digitValue c else c.toLower.toNat - 'a'.toNat + 10

def hexValue (cs : List Char) : Nat := cs.foldl (fun n c => 16 * n + hexDigitValue c) 0

def hexDigits (n : Nat) : List Char := Nat.toDigits 16 n

/-- Exponents of ten beyond which the nearest number is zero or infinity. -/
def exponentSpan : Int := 400

/-- `coefficient * 10 ^ exponent`, rounded once. -/
def nearest (negative : Bool) (coefficient : Nat) (exponent : Int) : Binary64 :=
  let top := exponent + (digits coefficient).length
  if coefficient = 0 ∨ top < -exponentSpan then .ofMagnitude negative 0
  else if exponentSpan < top then .ofMagnitude negative Binary64.infinityMagnitude
  else .ofRatio negative (coefficient * powerOfTen exponent.toNat) (powerOfTen (-exponent).toNat)

def splitSign : List Char → Bool × List Char
  | '-' :: cs => (true, cs)
  | '+' :: cs => (false, cs)
  | cs => (false, cs)

def isExponentMark (c : Char) : Bool := c = 'e' || c = 'E'

/-- The exponent of a numeral, zero without a mark. -/
def exponent? : List Char → Option Int
  | [] => some 0
  | _ :: cs =>
    let (negative, ds) := splitSign cs
    if !ds.isEmpty && ds.all Char.isDigit then
      let e : Int := value ds
      some (if negative then -e else e)
    else none

/-- Digits with a point among, before or behind them, and an exponent. -/
def ofNumeral? (negative : Bool) (cs : List Char) : Option Binary64 :=
  let mantissa := cs.takeWhile (!isExponentMark ·)
  let whole := mantissa.takeWhile (· ≠ '.')
  let fraction := (mantissa.drop whole.length).drop 1
  let ds := whole ++ fraction
  if ds.isEmpty || !ds.all Char.isDigit then none
  else
    (exponent? (cs.drop mantissa.length)).map fun e =>
      nearest negative (value ds) (e - fraction.length)

def infinity (negative : Bool) : Binary64 := .ofMagnitude negative Binary64.infinityMagnitude

def notANumber (negative : Bool) : Binary64 :=
  .ofMagnitude negative (Binary64.infinityMagnitude + Binary64.hiddenBit / 2)

/-- A numeral, or a word for infinity or no number in any case, behind an optional sign. -/
def ofText? (cs : List Char) : Option Binary64 :=
  let (negative, rest) := splitSign cs
  let word := String.ofList (rest.map Char.toLower)
  if word = "inf" ∨ word = "infinity" then some (infinity negative)
  else if word = "nan" then some (notANumber negative)
  else ofNumeral? negative rest

end BeamRun.Decimal

/-! The fewest decimal digits that read back as a given binary64 number. -/

namespace BeamRun

/-- `coefficient * 10 ^ exponent`. -/
structure Decimal where
  coefficient : Nat
  exponent : Int
  deriving DecidableEq, Repr

namespace Decimal

/-- Which of two equally near grid points is taken. -/
inductive Tie where
  | even
  | away
  deriving DecidableEq, Repr

/-- The numbers that round to `value`, all three over one denominator. -/
structure Neighbourhood where
  low : Nat
  value : Nat
  high : Nat
  denominator : Nat
  closed : Bool

def neighbourhood (x : Binary64) : Neighbourhood :=
  let m := x.significand
  let q := x.exponent - 2
  let narrow := m = Binary64.hiddenBit ∧ -1074 < x.exponent
  { low := (4 * m - if narrow then 1 else 2) <<< q.toNat
    value := (4 * m) <<< q.toNat
    high := (4 * m + 2) <<< q.toNat
    denominator := 1 <<< (-q).toNat
    closed := m % 2 = 0 }

/-- The multiple of `10 ^ exponent` that is nearest to the value among those that round to it. -/
def Neighbourhood.gridPoint? (n : Neighbourhood) (tie : Tie) (exponent : Int) : Option Nat :=
  let shift := powerOfTen (-exponent).toNat
  let unit := n.denominator * powerOfTen exponent.toNat
  let value := n.value * shift
  let below := value / unit
  let above := below + 1
  let reachesLow :=
    if n.closed then n.low * shift ≤ below * unit else n.low * shift < below * unit
  let reachesHigh :=
    if n.closed then above * unit ≤ n.high * shift else above * unit < n.high * shift
  let toBelow := value - below * unit
  let toAbove := above * unit - value
  let belowWins := toBelow < toAbove ∨ (toBelow = toAbove ∧ tie = .even ∧ below % 2 = 0)
  if reachesLow ∧ (belowWins ∨ ¬ reachesHigh) then some below
  else if reachesHigh then some above
  else none

/-- An exponent of ten above every number below `2 ^ bits`. -/
def ceilingExponent (bits : Int) : Int := bits * 30103 / 100000 + 1

/-- Absolute value of a finite number other than zero, on the coarsest decimal grid that has a point
which rounds to it. -/
def shortest (tie : Tie) (x : Binary64) : Decimal :=
  let top := ceilingExponent (x.significand.log2 + 1 + x.exponent)
  let n := neighbourhood x
  let found := (List.range 20).findSome? fun (step : Nat) =>
    let exponent := top - step
    (n.gridPoint? tie exponent).map (Decimal.mk · exponent)
  found.getD ⟨0, 0⟩

end Decimal
end BeamRun

/-! How decimals are laid out: positional, scientific, and with a fixed number of places. -/

namespace BeamRun.Decimal

structure Layout where
  tie : Tie
  /-- Whether a number whose first digit counts `10 ^ k` is written without exponent. -/
  positional : Int → Bool
  /-- What follows the digits of a whole number. -/
  wholeSuffix : List Char

def Layout.positionalText (l : Layout) (d : Decimal) : List Char :=
  let ds := digits d.coefficient
  if 0 ≤ d.exponent then
    ds ++ List.replicate d.exponent.toNat '0' ++ l.wholeSuffix
  else
    let places := (-d.exponent).toNat
    let ds := ds.leftpad (places + 1) '0'
    ds.take (ds.length - places) ++ '.' :: ds.drop (ds.length - places)

def scientificText (d : Decimal) : List Char :=
  let ds := digits d.coefficient
  let exponent := d.exponent + ds.length - 1
  let tail := if ds.length = 1 then [] else '.' :: ds.drop 1
  let sign := if exponent < 0 then [] else ['+']
  ds.take 1 ++ tail ++ 'e' :: sign ++ ofInt exponent

def Layout.decimalText (l : Layout) (d : Decimal) : List Char :=
  if l.positional (d.exponent + (digits d.coefficient).length - 1) then l.positionalText d
  else scientificText d

def signText (x : Binary64) : List Char := if x.isNegative then ['-'] else []

def Layout.text (l : Layout) (x : Binary64) : List Char :=
  if x.isNaN then ['N', 'a', 'N']
  else if !x.isFinite then signText x ++ ['i', 'n', 'f']
  else if x.magnitude = 0 then signText x ++ '0' :: l.wholeSuffix
  else signText x ++ l.decimalText (shortest l.tie x)

/-- Plain numbers in messages: never an exponent, no point after a whole number. -/
def plain : Layout := ⟨.away, fun _ => true, []⟩

def plainText (x : Binary64) : String := String.ofList (plain.text x)

/-- Absolute value in units of the last of `places` decimal places, half to even. -/
def fixedUnits (places : Nat) (x : Binary64) : Nat :=
  Binary64.roundHalfEven (x.numerator * powerOfTen places) x.denominator

def fixedText (places : Nat) (x : Binary64) : List Char :=
  if x.isFinite then
    let units := fixedUnits places x
    signText x ++ digits (units / powerOfTen places) ++
      '.' :: padded places (units % powerOfTen places)
  else plain.text x

end BeamRun.Decimal
