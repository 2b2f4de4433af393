import BeamRun.Calendar
import BeamRun.Decimal
import BeamRun.Text

/-! Instants in universal time: the calendar, the written form and its lenient reader. -/

namespace BeamRun.Report

/-- Seconds from 1970 and nanoseconds within the second, which go on to two billion in a leap second. -/
structure Timestamp where
  seconds : Int
  nanoseconds : Nat
  deriving DecidableEq, Repr

namespace Timestamp

def secondsPerDay : Int := 86400

def date (t : Timestamp) : Date := .ofDayNumber (t.seconds / secondsPerDay)

def two (n : Nat) : List Char := Decimal.padded 2 n

/-- Four digits, with a sign in front of what they cannot tell. -/
def yearText (year : Int) : List Char :=
  if 0 ≤ year ∧ year ≤ 9999 then Decimal.padded 4 year.toNat
  else (if year < 0 then '-' else '+') :: Decimal.padded 4 year.natAbs

/-- No fraction, or as many groups of three digits as it takes. -/
def fractionText (nanoseconds : Nat) : List Char :=
  if nanoseconds = 0 then []
  else if nanoseconds % 1000000 = 0 then '.' :: Decimal.padded 3 (nanoseconds / 1000000)
  else if nanoseconds % 1000 = 0 then '.' :: Decimal.padded 6 (nanoseconds / 1000)
  else '.' :: Decimal.padded 9 nanoseconds

def chars (t : Timestamp) : List Char :=
  let date := t.date
  let clock := (t.seconds % secondsPerDay).toNat
  let leap := 1000000000 ≤ t.nanoseconds
  let second := clock % 60 + (if leap then 1 else 0)
  let fraction := if leap then t.nanoseconds - 1000000000 else t.nanoseconds
  yearText date.year ++ '-' :: two date.month ++ '-' :: two date.day ++ 'T' ::
    two (clock / 3600) ++ ':' :: two (clock / 60 % 60) ++ ':' :: two second ++ fractionText fraction

def text (t : Timestamp) : String := String.ofList (t.chars ++ ['Z'])

/-- The form with an offset in place of a letter. -/
def offsetText (t : Timestamp) : String := String.ofList t.chars ++ "+00:00"

inductive Fault where
  | outOfRange
  | impossible
  | invalid
  | tooShort
  | tooLong
  deriving DecidableEq, Repr

def Fault.message : Fault → String
  | outOfRange => "input is out of range"
  | impossible => "no possible date and time matching input"
  | invalid => "input contains invalid characters"
  | tooShort => "premature end of input"
  | tooLong => "trailing input"

abbrev Scan (α : Type) := StateT (List Char) (Except Fault) α

namespace Scan

def skipBlanks : Scan Unit := modify Text.dropBlanks

/-- One to `width` digits; only a number of more than 63 bits is out of range. -/
def number (width : Nat) : Scan Nat := do
  let cs ← get
  if cs.isEmpty then throw .tooShort
  let ds := (cs.take width).takeWhile Char.isDigit
  if ds.isEmpty then throw .invalid
  let n := Decimal.value ds
  if 0x8000000000000000 ≤ n then throw .outOfRange
  set (cs.drop ds.length)
  pure n

def part (width low high : Nat) : Scan Nat := do
  skipBlanks
  let n ← number width
  if low ≤ n ∧ n ≤ high then pure n else throw .outOfRange

def signed : Scan Int := do
  let cs ← get
  match cs with
  | '-' :: rest =>
    set rest
    let n ← number rest.length
    pure (-(n : Int))
  | '+' :: rest =>
    set rest
    let n ← number rest.length
    pure n
  | _ =>
    let n ← number 4
    pure n

/-- Four digits, or any number of digits behind a sign. -/
def year : Scan Int := do
  skipBlanks
  let y ← signed
  if -0x80000000 ≤ y ∧ y < 0x80000000 then pure y else throw .outOfRange

def mark (c : Char) : Scan Unit := do
  skipBlanks
  match ← get with
  | [] => throw .tooShort
  | d :: rest => if d = c then set rest else throw .invalid

/-- Digits behind a point, of which nine count. -/
def fraction : Scan Nat := do
  match ← get with
  | '.' :: rest =>
    set rest
    let n ← number 9
    let digits := (rest.takeWhile Char.isDigit).length
    set (rest.drop digits)
    pure (n * Decimal.powerOfTen (9 - digits))
  | _ => pure 0

/-- Two digits; fewer than two bytes are too short, also where they are no digits. -/
def twoDigits : Scan Nat := do
  let cs ← get
  let ds := cs.take 2
  if Text.byteCount ds < 2 then throw .tooShort
  if ds.length = 2 ∧ ds.all Char.isDigit then
    set (cs.drop 2)
    pure (Decimal.value ds)
  else throw .invalid

def isMinus (c : Char) : Bool := c = '-' || c.toNat = 0x2212

/-- Seconds by which the written time is ahead of universal time. -/
def offset : Scan Int := do
  let cs ← get
  match cs with
  | [] => throw .tooShort
  | c :: rest =>
    if c = 'Z' ∨ c = 'z' then
      set rest
      pure 0
    else if (cs.take 3).map Char.toUpper = ['U', 'T', 'C'] then
      set (cs.drop 3)
      pure 0
    else if c = '+' ∨ isMinus c then
      set rest
      let hours ← twoDigits
      modify (·.dropWhile fun c => c = ':' || Text.isBlank c)
      let minutes ← twoDigits
      if 60 ≤ minutes then throw .outOfRange
      let seconds : Int := hours * 3600 + minutes * 60
      pure (if isMinus c then -seconds else seconds)
    else throw .invalid

def separator : Scan Unit := do
  match ← get with
  | [] => throw .tooShort
  | c :: rest => if c = 't' ∨ c = 'T' ∨ c = ' ' then set rest else throw .invalid

end Scan

def hasYear (year : Int) : Bool := -262143 ≤ year && year ≤ 262142

/-- The instant of a date and a time of day that is ahead of universal time by an offset. -/
def ofLocal (date : Date) (hour minute second nanoseconds : Nat) (offset : Int) :
    Except Fault Timestamp :=
  if !hasYear date.year || Date.daysInMonth date.year date.month < date.day then .error .outOfRange
  else if ¬ (-secondsPerDay < offset ∧ offset < secondsPerDay) then .error .outOfRange
  else
    let leap := second = 60
    let clock := hour * 3600 + minute * 60 + (if leap then 59 else second)
    let t : Timestamp :=
      ⟨date.dayNumber * secondsPerDay + clock - offset,
        nanoseconds + (if leap then 1000000000 else 0)⟩
    if hasYear t.date.year then .ok t else .error .impossible

def scan : Scan Timestamp := do
  let year ← Scan.year
  Scan.mark '-'
  let month ← Scan.part 2 1 12
  Scan.mark '-'
  let day ← Scan.part 2 1 31
  Scan.separator
  let hour ← Scan.part 2 0 23
  Scan.mark ':'
  let minute ← Scan.part 2 0 59
  Scan.mark ':'
  let second ← Scan.part 2 0 60
  let nanoseconds ← Scan.fraction
  Scan.skipBlanks
  let offset ← Scan.offset
  Scan.skipBlanks
  unless (← get).isEmpty do throw .tooLong
  ofLocal ⟨year, month, day⟩ hour minute second nanoseconds offset

def parse (text : String) : Except Fault Timestamp := (scan.run text.toList).map (·.1)

end Timestamp
end BeamRun.Report
