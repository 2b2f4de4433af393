import BeamRun.Json.Cursor

namespace BeamRun.Json

structure Numeral where
  negative : Bool
  whole : List Char
  fraction : List Char
  /-- Sign and digits. -/
  exponent : Option (Bool × List Char)
  deriving DecidableEq, Repr

namespace Numeral

/-- Appends digits to a significand until one does not fit into 64 bits; the second part counts the
digits left over. -/
def absorb (significand : Nat) : List Char → Nat × Nat
  | [] => (significand, 0)
  | d :: ds =>
    let next := 10 * significand + Decimal.digitValue d
    if next < 0x10000000000000000 then absorb next ds else (significand, ds.length + 1)

def roundedPowerOfTen (k : Nat) : Binary64 := Binary64.ofNat (Decimal.powerOfTen k)

/-- Significand times a power of ten, each step rounded on its own: a power up to `10 ^ 308` is one
factor or divisor, a smaller number takes two divisions, and beyond that nothing is left. -/
def scaled (significand : Nat) (exponent : Int) : Binary64 :=
  let f := Binary64.ofNat significand
  if 308 < exponent then
    if significand = 0 then .zero else .ofMagnitude false Binary64.infinityMagnitude
  else if 0 ≤ exponent then f.mul (roundedPowerOfTen exponent.toNat)
  else if -308 ≤ exponent then f.div (roundedPowerOfTen (-exponent).toNat)
  else if -616 ≤ exponent then
    (f.div (roundedPowerOfTen 308)).div (roundedPowerOfTen (-(exponent + 308)).toNat)
  else .zero

def exponentLimit : Nat := 0x7fffffff

/-- How many exponent digits are read before the exponent is too great for 31 bits. -/
def overflowLength (digits : List Char) : Option Nat :=
  let rec go (value count : Nat) : List Char → Option Nat
    | [] => none
    | d :: ds =>
      let next := 10 * value + Decimal.digitValue d
      if exponentLimit < next then some (count + 1) else go next (count + 1) ds
  go 0 0 digits

def signed (negative : Bool) (x : Binary64) : Binary64 := if negative then x.neg else x

def realValue (n : Numeral) : Binary64 :=
  let (significand, droppedWhole) := absorb 0 n.whole
  let (significand, droppedFraction) := absorb significand n.fraction
  let scale : Int := droppedWhole - (n.fraction.length - droppedFraction : Nat)
  let magnitude :=
    match n.exponent with
    | none => scaled significand scale
    | some (down, ds) =>
      if (overflowLength ds).isSome then
        if significand = 0 ∨ down then .zero
        else .ofMagnitude false Binary64.infinityMagnitude
      else
        let e : Int := Decimal.value ds
        scaled significand (if down then scale - e else scale + e)
  signed n.negative magnitude

/-- The value of a numeral without point and exponent that fits into 64 bits. Minus zero is real. -/
def wholeValue? (n : Numeral) : Option WholeNumber :=
  if n.fraction.isEmpty ∧ n.exponent.isNone then
    let v : Int := Decimal.value n.whole
    let v := if n.negative then -v else v
    if n.negative ∧ v = 0 then none
    else if h : -0x8000000000000000 ≤ v ∧ v < 0x10000000000000000 then some ⟨v, h⟩
    else none
  else none

/-- A number too great for binary64 has no value. -/
def value? (n : Numeral) : Option Number :=
  match n.wholeValue? with
  | some v => some (.whole v)
  | none =>
    if h : n.realValue.isFinite = true then some (.real ⟨n.realValue, h⟩) else none

end Numeral

namespace Reader

/-- Digits before the point; a zero stands alone. -/
def wholeDigits (atEnd : Fault) : Reader (List Char) := do
  match ← peekChar with
  | none => failHere atEnd
  | some '0' =>
    advance
    match ← peekChar with
    | some c => if c.isDigit then failAhead .invalidNumber else pure ['0']
    | none => pure ['0']
  | some c => if c.isDigit then digitRun else failAhead .invalidNumber

def fractionDigits (atEnd : Fault) : Reader (List Char) := do
  match ← peekChar with
  | some '.' =>
    advance
    match ← digitRun with
    | [] =>
      match ← peekChar with
      | none => failHere atEnd
      | some _ => failAhead .invalidNumber
    | ds => pure ds
  | _ => pure []

def exponentPart (atEnd : Fault) : Reader (Option (Bool × List Char)) := do
  let mark ← peekChar
  if mark = some 'e' ∨ mark = some 'E' then
    advance
    let sign ← peekChar
    if sign = some '+' ∨ sign = some '-' then advance
    match ← digitRun with
    | [] =>
      match ← peekChar with
      | none => failHere atEnd
      | some _ => failAhead .invalidNumber
    | ds => pure (some (sign = some '-', ds))
  else pure none

/-- A numeral whose sign was read; `atEnd` is the fault of a text that ends inside it. -/
def numeral (atEnd : Fault) (negative : Bool) : Reader Numeral := do
  let whole ← wholeDigits atEnd
  let fraction ← fractionDigits atEnd
  let exponent ← exponentPart atEnd
  pure { negative, whole, fraction, exponent }

/-- A number out of range is noticed at its end, or as soon as its exponent is too great. -/
def number (negative : Bool) : Reader Number := do
  let n ← numeral .endInValue negative
  match n.value? with
  | some v => pure v
  | none =>
    let unread :=
      match n.exponent with
      | some (_, ds) =>
        match Numeral.overflowLength ds with
        | some count => ds.length - count
        | none => 0
      | none => 0
    fun c => .error ⟨.numberOutOfRange, c.offset - unread⟩

end Reader
end BeamRun.Json
