import BeamRun.Json.Value

/-! Reading JSON text: faults, their positions, and the steps that all readers share. -/

namespace BeamRun.Json

inductive Fault where
  | endInValue
  | endInList
  | endInObject
  | endInString
  | expectedValue
  | expectedWord
  | keyMustBeString
  | expectedColon
  | expectedListComma
  | expectedObjectComma
  | trailingComma
  | trailingCharacters
  | invalidNumber
  | numberOutOfRange
  | nestedTooDeep
  | controlCharacter
  | invalidEscape
  | loneSurrogate
  | unpairedSurrogate
  | invalidType (found expected : String)
  | invalidLength (length : Nat) (expected : String)
  | missingField (name : String)
  | duplicateField (name : String)
  | unknownVariant (found expected : String)
  | invalidContent (reason : String)
  deriving DecidableEq, Repr

def Fault.message : Fault → String
  | endInValue => "EOF while parsing a value"
  | endInList => "EOF while parsing a list"
  | endInObject => "EOF while parsing an object"
  | endInString => "EOF while parsing a string"
  | expectedValue => "expected value"
  | expectedWord => "expected ident"
  | keyMustBeString => "key must be a string"
  | expectedColon => "expected `:`"
  | expectedListComma => "expected `,` or `]`"
  | expectedObjectComma => "expected `,` or `\x7d`"
  | trailingComma => "trailing comma"
  | trailingCharacters => "trailing characters"
  | invalidNumber => "invalid number"
  | numberOutOfRange => "number out of range"
  | nestedTooDeep => "recursion limit exceeded"
  | controlCharacter => "control character (\\u0000-\\u001F) found while parsing a string"
  | invalidEscape => "invalid escape"
  | loneSurrogate => "lone leading surrogate in hex escape"
  | unpairedSurrogate => "unexpected end of hex escape"
  | invalidType found expected => "invalid type: " ++ found ++ ", expected " ++ expected
  | invalidLength length expected =>
    "invalid length " ++ toString length ++ ", expected " ++ expected
  | missingField name => "missing field `" ++ name ++ "`"
  | duplicateField name => "duplicate field `" ++ name ++ "`"
  | unknownVariant found expected =>
    "unknown variant `" ++ found ++ "`, expected " ++ expected
  | invalidContent reason => reason

/-- What is left of a text, and how many bytes of it were read. -/
structure Cursor where
  rest : List Char
  offset : Nat

structure FaultAt where
  fault : Fault
  offset : Nat

abbrev Reader (α : Type) := StateT Cursor (Except FaultAt) α

/-- Position of the byte offset: lines count from one, columns are the bytes since the last line feed. -/
def position (text : List Char) (offset : Nat) : Nat × Nat :=
  let rec go : List Char → Nat → Nat → Nat → Nat × Nat
    | [], _, line, start => (line, offset - start)
    | c :: cs, at_, line, start =>
      let next := at_ + c.utf8Size
      if c = '\n' ∧ next ≤ offset then go cs next (line + 1) next else go cs next line start
  go text 0 1 0

structure ReadError where
  fault : Fault
  line : Nat
  column : Nat
  deriving DecidableEq, Repr

def ReadError.message (e : ReadError) : String :=
  e.fault.message ++ " at line " ++ toString e.line ++ " column " ++ toString e.column

def FaultAt.locate (text : List Char) (f : FaultAt) : ReadError :=
  let (line, column) := position text f.offset
  ⟨f.fault, line, column⟩

namespace Reader

/-- Reports a fault behind everything that was read. -/
def failHere {α : Type} (fault : Fault) : Reader α := fun c => .error ⟨fault, c.offset⟩

/-- Reports a fault at the next byte, which was only looked at. -/
def failAhead {α : Type} (fault : Fault) : Reader α := fun c =>
  .error ⟨fault, if c.rest.isEmpty then c.offset else c.offset + 1⟩

def peekChar : Reader (Option Char) := fun c => .ok (c.rest.head?, c)

def advance : Reader Unit := fun c =>
  match c.rest with
  | [] => .ok ((), c)
  | ch :: rest => .ok ((), ⟨rest, c.offset + ch.utf8Size⟩)

def remaining : Reader Nat := fun c => .ok (c.rest.length, c)

def isBlank (c : Char) : Bool := c = ' ' || c = '\n' || c = '\t' || c = '\r'

def skipBlanks : Reader Unit := fun c =>
  .ok ((), ⟨c.rest.dropWhile isBlank, c.offset + (c.rest.takeWhile isBlank).length⟩)

def peek : Reader (Option Char) := do
  skipBlanks
  peekChar

def digitRun : Reader (List Char) := fun c =>
  let ds := c.rest.takeWhile Char.isDigit
  .ok (ds, ⟨c.rest.drop ds.length, c.offset + ds.length⟩)

def word : List Char → Reader Unit
  | [] => pure ()
  | expected :: more => do
    match ← peekChar with
    | none => failHere .endInValue
    | some c =>
      if c = expected then
        advance
        word more
      else failAhead .expectedWord

/-- Whether a list goes on; a comma in front of the next item is read. -/
def hasItem (first : Bool) : Reader Bool := do
  match ← peek with
  | none => failHere .endInList
  | some ']' => pure false
  | some c =>
    if first then pure true
    else if c = ',' then
      advance
      match ← peek with
      | none => failHere .endInValue
      | some ']' => failAhead .trailingComma
      | some _ => pure true
    else failAhead .expectedListComma

def endList : Reader Unit := do
  match ← peek with
  | none => failHere .endInList
  | some ']' => advance
  | some ',' =>
    advance
    match ← peek with
    | some ']' => failAhead .trailingComma
    | _ => failAhead .trailingCharacters
  | some _ => failAhead .trailingCharacters

/-- Whether an object goes on; a comma in front of the next key and the quote that opens it are read. -/
def hasKey (first : Bool) : Reader Bool := do
  match ← peek with
  | none => failHere .endInObject
  | some '\x7d' => pure false
  | some c =>
    if first then
      if c = '"' then
        advance
        pure true
      else failAhead .keyMustBeString
    else if c = ',' then
      advance
      match ← peek with
      | none => failHere .endInValue
      | some '"' =>
        advance
        pure true
      | some '\x7d' => failAhead .trailingComma
      | some _ => failAhead .keyMustBeString
    else failAhead .expectedObjectComma

def endObject : Reader Unit := do
  match ← peek with
  | none => failHere .endInObject
  | some '\x7d' => advance
  | some ',' => failAhead .trailingComma
  | some _ => failAhead .trailingCharacters

def colon : Reader Unit := do
  match ← peek with
  | none => failHere .endInObject
  | some ':' => advance
  | some _ => failAhead .expectedColon

def run {α : Type} (r : Reader α) (text : String) : Except ReadError α :=
  let cs := text.toList
  let whole : Reader α := do
    let a ← r
    match ← peek with
    | none => pure a
    | some _ => failAhead .trailingCharacters
  match whole ⟨cs, 0⟩ with
  | .ok (a, _) => .ok a
  | .error f => .error (f.locate cs)

end Reader
end BeamRun.Json
