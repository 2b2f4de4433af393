import BeamRun.Text
import BeamRun.Toml.Document

namespace BeamRun.Toml

namespace Reader

open Text.Scan

def isBlank (c : Char) : Bool := c = ' ' || c = '\t'

def blanks : Text.Scan Unit := discard (takeWhile isBlank)

def lineFeed : Text.Scan Bool := do
  if ← tryText ['\n'] then pure true else tryText ['\r', '\n']

/-- Characters of comments and of literal strings: control characters other than the tab are not. -/
def isPlain (c : Char) : Bool := c = '\t' || (0x20 ≤ c.toNat && c.toNat ≠ 0x7f)

def comment : Text.Scan Unit := do
  if (← peek) = some '#' then
    let _ ← takeWhile isPlain

/-- Blanks, comments and line ends, as they may stand between the items of an array. -/
def gap : Nat → Text.Scan Unit
  | 0 => pure ()
  | fuel + 1 => do
    blanks
    comment
    if ← lineFeed then gap fuel

def gaps : Text.Scan Unit := do
  gap ((← remaining) + 1)

def scalarOf (ds : List Char) : Text.Scan Char :=
  let n := Decimal.hexValue ds
  if ds.all Decimal.isHexDigit && (n < 0xD800 || (0xE000 ≤ n && n < 0x110000)) then
    pure (Char.ofNat n)
  else refuse

def codePoint (width : Nat) : Text.Scan Char := do
  let ds := (← get).take width
  if ds.length < width then refuse
  skip width
  scalarOf ds

def escapedChar (c : Char) : Option Char :=
  if c = '"' then some '"'
  else if c = '\\' then some '\\'
  else if c = 'b' then some (Char.ofNat 0x08)
  else if c = 'f' then some (Char.ofNat 0x0c)
  else if c = 'n' then some '\n'
  else if c = 'r' then some '\r'
  else if c = 't' then some '\t'
  else none

/-- The rest of an escape whose backslash was read. -/
def escape : Text.Scan Char := do
  let some c ← peek | refuse
  skip 1
  if c = 'u' then codePoint 4
  else if c = 'U' then codePoint 8
  else
    let some plain := escapedChar c | refuse
    pure plain

/-- The rest of a string on one line whose quote was read; the characters `read` come last first. -/
def lineString (quote : Char) : Nat → List Char → Text.Scan String
  | 0, _ => refuse
  | fuel + 1, read => do
    let some c ← peek | refuse
    skip 1
    if c = quote then pure (String.ofList read.reverse)
    else if c = '\\' ∧ quote = '"' then
      let e ← escape
      lineString quote fuel (e :: read)
    else if isPlain c then lineString quote fuel (c :: read)
    else refuse

/-- Whether a backslash at the end of a line was read over with the blank lines behind it. -/
def continuation : Text.Scan Bool := do
  let cs ← get
  let atEnd := cs.dropWhile isBlank
  if atEnd.head? = some '\n' ∨ (['\r', '\n'] : List Char).isPrefixOf atEnd then
    let isSpace (c : Char) : Bool := isBlank c || c = '\n'
    let rec go : Nat → List Char → List Char
      | 0, cs => cs
      | fuel + 1, cs =>
        match cs with
        | '\r' :: '\n' :: rest => go fuel rest
        | c :: rest => if isSpace c then go fuel rest else c :: rest
        | [] => []
    set (go (cs.length + 1) cs)
    pure true
  else pure false

/-- The rest of a string over several lines. Up to two quotes in front of the closing three belong to
the string. -/
def linesString (quote : Char) : Nat → List Char → Text.Scan String
  | 0, _ => refuse
  | fuel + 1, read => do
    let some c ← peek | refuse
    if c = quote then
      let quotes := ((← get).takeWhile (· = quote)).length
      if quotes < 3 then
        skip quotes
        linesString quote fuel (List.replicate quotes quote ++ read)
      else
        let inside := min (quotes - 3) 2
        skip (inside + 3)
        pure (String.ofList (List.replicate inside quote ++ read).reverse)
    else if ← lineFeed then linesString quote fuel ('\n' :: read)
    else if c = '\\' ∧ quote = '"' then
      skip 1
      if ← continuation then linesString quote fuel read
      else
        let e ← escape
        linesString quote fuel (e :: read)
    else if isPlain c then
      skip 1
      linesString quote fuel (c :: read)
    else refuse

def string (quote : Char) : Text.Scan String := do
  let fuel := (← remaining) + 1
  if ← tryText [quote, quote, quote] then
    let _ ← lineFeed
    linesString quote fuel []
  else
    skip 1
    lineString quote fuel []

def isBareKeyPart (c : Char) : Bool := c.isAlphanum || c = '_' || c = '-'

def simpleKey : Text.Scan String := do
  match ← peek with
  | some '"' =>
    skip 1
    lineString '"' ((← remaining) + 1) []
  | some '\'' =>
    skip 1
    lineString '\'' ((← remaining) + 1) []
  | _ =>
    let cs ← takeWhile isBareKeyPart
    if cs.isEmpty then refuse
    pure (String.ofList cs)

def keyParts : Nat → List String → Text.Scan (List String)
  | 0, _ => refuse
  | fuel + 1, read => do
    let part ← simpleKey
    blanks
    if ← tryText ['.'] then
      blanks
      keyParts fuel (part :: read)
    else pure (part :: read)

/-- Bound on the depth of brackets and on the parts of a key. -/
def depthLimit : Nat := 79

/-- A dotted key as a path and its last part. -/
def key : Text.Scan (List String × String) := do
  blanks
  match ← keyParts depthLimit [] with
  | last :: path => pure (path.reverse, last)
  | [] => refuse

def arrayItems (item : Text.Scan Value) : Nat → List Value → Text.Scan (List Value)
  | 0, _ => refuse
  | fuel + 1, read => do
    gaps
    if ← tryText [']'] then pure read.reverse
    else
      let v ← item
      gaps
      if ← tryText [','] then arrayItems item fuel (v :: read)
      else
        expect ']'
        pure (v :: read).reverse

def keyValue (item : Text.Scan Value) : Text.Scan ((List String × String) × Value) := do
  let k ← key
  expect '='
  blanks
  pure (k, ← item)

def inlineEntries (item : Text.Scan Value) :
    Nat → List ((List String × String) × Value) → Text.Scan (List ((List String × String) × Value))
  | 0, _ => refuse
  | fuel + 1, read => do
    let entry ← keyValue item
    blanks
    if ← tryText [','] then inlineEntries item fuel (entry :: read)
    else
      expect '\x7d'
      pure (entry :: read).reverse

/-- A scalar without quotes. A blank may stand between a date and its time. -/
def bare : Text.Scan Value := do
  let token ← takeWhile Scalar.isPart
  let cs ← get
  let time := (cs.drop 1).takeWhile Scalar.isPart
  if Scalar.isDate token && cs.head? = some ' ' && Scalar.isDateTime (token ++ ' ' :: time) then
    skip (1 + time.length)
    pure (.scalar .datetime)
  else
    match Scalar.ofChars? token with
    | some s => pure (.scalar s)
    | none => refuse

def valueOver (nested : Option (Text.Scan Value)) : Text.Scan Value := do
  match ← peek with
  | some '"' => return .scalar (.string (← string '"'))
  | some '\'' => return .scalar (.string (← string '\''))
  | some '[' =>
    let some item := nested | refuse
    skip 1
    return .array (← arrayItems item ((← remaining) + 1) [])
  | some '\x7b' =>
    let some item := nested | refuse
    skip 1
    blanks
    let pairs ← do
      if ← tryText ['\x7d'] then pure [] else inlineEntries item ((← remaining) + 1) []
    match inlineTable? pairs with
    | some v => pure v
    | none => refuse
  | _ => bare

/-- A value with at most `depth` brackets open at once. -/
def value : Nat → Text.Scan Value
  | 0 => valueOver none
  | depth + 1 => valueOver (some (value depth))

/-- A document that was read up to some line: its tables and the open header. -/
structure Progress where
  root : Entries
  header : List String

def expression (p : Progress) : Text.Scan Progress := do
  match ← peek with
  | some '[' =>
    if ← tryText ['[', '['] then
      let (path, last) ← key
      expect ']'
      expect ']'
      pure ⟨← orRefuse (Entries.push? path last p.root), path ++ [last]⟩
    else
      skip 1
      let (path, last) ← key
      expect ']'
      pure ⟨← orRefuse (Entries.open? path last p.root), path ++ [last]⟩
  | some c =>
    if c = '#' ∨ c = '\n' ∨ c = '\r' then pure p
    else
      let ((path, last), v) ← keyValue (value depthLimit)
      pure { p with root := ← orRefuse (Entries.set? p.header path last v p.root) }
  | none => pure p

def lines : Nat → Progress → Text.Scan Progress
  | 0, _ => refuse
  | fuel + 1, p => do
    blanks
    let p ← expression p
    blanks
    comment
    if (← get).isEmpty then pure p
    else if ← lineFeed then lines fuel p
    else refuse

def document : Text.Scan Entries := do
  let _ ← tryText [Char.ofNat 0xFEFF]
  let p ← lines ((← remaining) + 1) ⟨[], []⟩
  pure p.root

end Reader

def parse? (text : String) : Option (List (String × Value)) :=
  (Reader.document.whole? text.toList).map entryValues

end BeamRun.Toml
