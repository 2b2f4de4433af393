import BeamRun.Json.Numeral
import BeamRun.Text

namespace BeamRun.Json

namespace Reader

/-- Four hexadecimal digits; four bytes are read also where they are no digits. -/
def fourHexDigits : Reader Nat := fun c =>
  let ds := c.rest.take 4
  if ds.length = 4 ∧ ds.all Decimal.isHexDigit then
    .ok (Decimal.hexValue ds, ⟨c.rest.drop 4, c.offset + 4⟩)
  else if Text.byteCount ds < 4 then .error ⟨.endInString, c.offset + Text.byteCount ds⟩
  else .error ⟨.invalidEscape, c.offset + 4⟩

/-- One byte that has to stand between the two halves of a surrogate pair. -/
def betweenSurrogates (expected : Char) : Reader Unit := do
  match ← peekChar with
  | none => failHere .endInString
  | some c => if c = expected then advance else failAhead .unpairedSurrogate

def unicodeEscape : Reader Char := do
  let n ← fourHexDigits
  if 0xDC00 ≤ n ∧ n ≤ 0xDFFF then failHere .loneSurrogate
  else if 0xD800 ≤ n ∧ n ≤ 0xDBFF then
    betweenSurrogates '\\'
    betweenSurrogates 'u'
    let m ← fourHexDigits
    if 0xDC00 ≤ m ∧ m ≤ 0xDFFF then
      pure (Char.ofNat (0x10000 + (n - 0xD800) * 0x400 + (m - 0xDC00)))
    else failHere .loneSurrogate
  else pure (Char.ofNat n)

def escapedChar (c : Char) : Option Char :=
  if c = '"' then some '"'
  else if c = '\\' then some '\\'
  else if c = '/' then some '/'
  else if c = 'b' then some (Char.ofNat 0x08)
  else if c = 'f' then some (Char.ofNat 0x0c)
  else if c = 'n' then some '\n'
  else if c = 'r' then some '\r'
  else if c = 't' then some '\t'
  else none

def escape : Reader Char := do
  match ← peekChar with
  | none => failHere .endInString
  | some 'u' =>
    advance
    unicodeEscape
  | some c =>
    match escapedChar c with
    | some plain =>
      advance
      pure plain
    | none => failAhead .invalidEscape

/-- Characters up to the closing quote, in front of which stand the `read` ones, last first. -/
def stringTail : Nat → List Char → Reader String
  | 0, _ => failHere .endInString
  | fuel + 1, read => do
    match ← peekChar with
    | none => failHere .endInString
    | some '"' =>
      advance
      pure (String.ofList read.reverse)
    | some '\\' =>
      advance
      let c ← escape
      stringTail fuel (c :: read)
    | some c =>
      if c.toNat < 0x20 then failAhead .controlCharacter
      else
        advance
        stringTail fuel (c :: read)

def string : Reader String := do
  stringTail ((← remaining) + 1) []

def items {α : Type} (item : Reader α) : Nat → Bool → List α → Reader (List α)
  | 0, _, _ => failHere .endInList
  | fuel + 1, first, read => do
    if ← hasItem first then
      let v ← item
      items item fuel false (v :: read)
    else
      endList
      pure read.reverse

def list {α : Type} (item : Reader α) : Reader (List α) := do
  items item ((← remaining) + 1) true []

/-- Entries up to the end of an object; a later entry replaces an earlier one with its key. -/
def entries {α : Type} (item : Reader α) :
    Nat → Bool → List (String × α) → Reader (List (String × α))
  | 0, _, _ => failHere .endInObject
  | fuel + 1, first, read => do
    if ← hasKey first then
      let key ← string
      colon
      let v ← item
      entries item fuel false ((key, v) :: read)
    else
      endObject
      pure read.reverse

def object {α : Type} (item : Reader α) : Reader (List (String × α)) := do
  entries item ((← remaining) + 1) true []

/-- A value whose lists and objects hold values of the reader `nested`. -/
def valueOver (nested : Option (Reader Json)) : Reader Json := do
  match ← peek with
  | none => failHere .endInValue
  | some 'n' =>
    advance
    word ['u', 'l', 'l']
    pure .null
  | some 't' =>
    advance
    word ['r', 'u', 'e']
    pure (.bool true)
  | some 'f' =>
    advance
    word ['a', 'l', 's', 'e']
    pure (.bool false)
  | some '-' =>
    advance
    Json.number <$> number true
  | some '"' =>
    advance
    Json.string <$> string
  | some '[' =>
    match nested with
    | none => failAhead .nestedTooDeep
    | some item =>
      advance
      Json.array <$> list item
  | some '\x7b' =>
    match nested with
    | none => failAhead .nestedTooDeep
    | some item =>
      advance
      (fun es => Json.object (Entries.ofList es)) <$> object item
  | some c => if c.isDigit then Json.number <$> number false else failAhead .expectedValue

/-- A value with at most `depth` brackets open at once. -/
def value : Nat → Reader Json
  | 0 => valueOver none
  | depth + 1 => valueOver (some (value depth))

end Reader

def depthLimit : Nat := 127

def parse (text : String) : Except ReadError Json := (Reader.value depthLimit).run text

end BeamRun.Json
