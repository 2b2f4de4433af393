import BeamRun.Calendar
import BeamRun.Decimal

/-! Numbers, dates and times of TOML documents, each from the characters that make it up. -/

namespace BeamRun.Toml

inductive Scalar where
  | string (s : String)
  | integer (n : Int)
  | float (x : Binary64)
  | boolean (b : Bool)
  | datetime
  deriving DecidableEq, Repr

namespace Scalar

/-- Digits in groups with an underscore between each two; the digits alone. -/
def grouped? (isDigit : Char → Bool) (cs : List Char) : Option (List Char) :=
  let groups := cs.splitBy fun a b => a ≠ '_' ∧ b ≠ '_'
  let rec go : List (List Char) → Option (List Char)
    | [] => none
    | [g] => if g.all isDigit then some g else none
    | g :: ['_'] :: rest => if g.all isDigit then (go rest).map (g ++ ·) else none
    | _ => none
  go groups

def digitIn (base : Nat) (c : Char) : Bool := Decimal.isHexDigit c && Decimal.hexDigitValue c < base

def valueIn (base : Nat) (ds : List Char) : Nat :=
  ds.foldl (fun n c => base * n + Decimal.hexDigitValue c) 0

def ofRange? (n : Int) : Option Int :=
  if -0x8000000000000000 ≤ n ∧ n < 0x8000000000000000 then some n else none

def based? (base : Nat) (cs : List Char) : Option Int := do
  let ds ← grouped? (digitIn base) cs
  ofRange? (valueIn base ds)

def whole? (cs : List Char) : Option (List Char) := do
  let ds ← grouped? Char.isDigit cs
  if ds.head? = some '0' ∧ cs ≠ ['0'] then none else some ds

def integer? (cs : List Char) : Option Int :=
  match cs with
  | '0' :: 'x' :: rest => based? 16 rest
  | '0' :: 'o' :: rest => based? 8 rest
  | '0' :: 'b' :: rest => based? 2 rest
  | _ => do
    let (negative, rest) := Decimal.splitSign cs
    let n : Int := Decimal.value (← whole? rest)
    ofRange? (if negative then -n else n)

/-- A sign and digits behind an exponent mark, or nothing at all. -/
def exponent? : List Char → Option Int
  | [] => some 0
  | _ :: cs => do
    let (negative, rest) := Decimal.splitSign cs
    let e : Int := Decimal.value (← grouped? Char.isDigit rest)
    some (if negative then -e else e)

def fraction? : List Char → Option (List Char)
  | [] => some []
  | _ :: cs => grouped? Char.isDigit cs

/-- A number with a fraction or an exponent; one above all numbers is refused. -/
def numeral? (negative : Bool) (cs : List Char) : Option Binary64 := do
  let mantissa := cs.takeWhile (!Decimal.isExponentMark ·)
  let whole := mantissa.takeWhile (· ≠ '.')
  if whole.length = cs.length then none
  let ds ← whole? whole
  let fraction ← fraction? (mantissa.drop whole.length)
  let e ← exponent? (cs.drop mantissa.length)
  let x := Decimal.nearest negative (Decimal.value (ds ++ fraction)) (e - fraction.length)
  if x = Decimal.infinity false then none else some x

def float? (cs : List Char) : Option Binary64 :=
  let (negative, rest) := Decimal.splitSign cs
  if rest = ['i', 'n', 'f'] then some (Decimal.infinity negative)
  else if rest = ['n', 'a', 'n'] then some (Decimal.notANumber negative)
  else numeral? negative rest

/-- A number of exactly `width` digits within bounds, and what follows it. -/
def field? (width low high : Nat) (cs : List Char) : Option (Nat × List Char) :=
  let ds := cs.take width
  let n := Decimal.value ds
  if ds.length = width ∧ ds.all Char.isDigit ∧ low ≤ n ∧ n ≤ high then some (n, cs.drop width)
  else none

def mark? (c : Char) : List Char → Option (List Char)
  | d :: rest => if c = d then some rest else none
  | [] => none

def afterDate? (cs : List Char) : Option (List Char) := do
  let (year, cs) ← field? 4 0 9999 cs
  let (month, cs) ← field? 2 1 12 (← mark? '-' cs)
  let (_, cs) ← field? 2 1 (Date.daysInMonth year month) (← mark? '-' cs)
  some cs

def afterFraction? : List Char → Option (List Char)
  | '.' :: rest =>
    let ds := rest.takeWhile Char.isDigit
    if ds.isEmpty then none else some (rest.drop ds.length)
  | cs => some cs

def afterTime? (cs : List Char) : Option (List Char) := do
  let (_, cs) ← field? 2 0 23 cs
  let (_, cs) ← field? 2 0 59 (← mark? ':' cs)
  let (_, cs) ← field? 2 0 60 (← mark? ':' cs)
  afterFraction? cs

def afterOffset? : List Char → Option (List Char)
  | c :: cs =>
    if c = 'Z' ∨ c = 'z' then some cs
    else if c = '+' ∨ c = '-' then do
      let (_, cs) ← field? 2 0 23 cs
      let (_, cs) ← field? 2 0 59 (← mark? ':' cs)
      some cs
    else some (c :: cs)
  | [] => some []

def isTime (cs : List Char) : Bool := afterTime? cs = some []

def isOffsetTime (cs : List Char) : Bool := (afterTime? cs).bind afterOffset? = some []

def isDate (cs : List Char) : Bool := afterDate? cs = some []

def isDateTime (cs : List Char) : Bool :=
  match afterDate? cs with
  | some (c :: rest) => (c = 'T' || c = 't' || c = ' ') && isOffsetTime rest
  | _ => false

def ofChars? (cs : List Char) : Option Scalar :=
  if cs = ['t', 'r', 'u', 'e'] then some (boolean true)
  else if cs = ['f', 'a', 'l', 's', 'e'] then some (boolean false)
  else if isDate cs || isTime cs || isDateTime cs then some datetime
  else (integer? cs).elim ((float? cs).map float) (some ∘ integer)

def isPart (c : Char) : Bool :=
  c.isAlphanum || c = '_' || c = '+' || c = '-' || c = '.' || c = ':'

end Scalar
end BeamRun.Toml
