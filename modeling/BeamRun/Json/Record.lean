import BeamRun.Json.Skip
import BeamRun.Text.Quoted

/-! Reading JSON of a fixed shape: records of named fields, given as objects or as lists in order. -/

namespace BeamRun.Json

def numberName : Number → String
  | .whole n => "integer `" ++ (Number.whole n).text ++ "`"
  | .real x => "floating point `" ++ (Number.real x).text ++ "`"

namespace Reader

/-- Reports what stands where something else was expected; lists and objects are not entered. -/
def mistyped {α : Type} (expected : String) : Reader α := do
  match ← peek with
  | none => failHere .endInValue
  | some 'n' =>
    advance
    word ['u', 'l', 'l']
    failHere (.invalidType "null" expected)
  | some 't' =>
    advance
    word ['r', 'u', 'e']
    failHere (.invalidType "boolean `true`" expected)
  | some 'f' =>
    advance
    word ['a', 'l', 's', 'e']
    failHere (.invalidType "boolean `false`" expected)
  | some '-' =>
    advance
    let n ← number true
    failHere (.invalidType (numberName n) expected)
  | some '"' =>
    advance
    let s ← string
    failHere (.invalidType ("string " ++ Text.quoted s) expected)
  | some '[' => failHere (.invalidType "sequence" expected)
  | some '\x7b' => failHere (.invalidType "map" expected)
  | some c =>
    if c.isDigit then
      let n ← number false
      failHere (.invalidType (numberName n) expected)
    else failAhead .expectedValue

def stringAs (expected : String) : Reader String := do
  match ← peek with
  | some '"' =>
    advance
    string
  | _ => mistyped expected

def plainString : Reader String := stringAs "a string"

def boolean : Reader Bool := do
  match ← peek with
  | some 't' =>
    advance
    word ['r', 'u', 'e']
    pure true
  | some 'f' =>
    advance
    word ['a', 'l', 's', 'e']
    pure false
  | _ => mistyped "a boolean"

def unit : Reader Unit := do
  match ← peek with
  | some 'n' =>
    advance
    word ['u', 'l', 'l']
  | _ => mistyped "unit"

/-- `null` stands for nothing. -/
def optional {α : Type} (r : Reader α) : Reader (Option α) := do
  match ← peek with
  | some 'n' =>
    advance
    word ['u', 'l', 'l']
    pure none
  | _ => some <$> r

def listOf {α : Type} (item : Reader α) : Reader (List α) := do
  match ← peek with
  | some '[' =>
    advance
    list item
  | _ => mistyped "a sequence"

def mapOf {α : Type} (item : Reader α) : Reader (TextMap α) := do
  match ← peek with
  | some '\x7b' =>
    advance
    TextMap.ofList <$> object item
  | _ => mistyped "a map"

/-- One of a few names, as a string or as the only key of an object over `null`. -/
def oneOf {α : Type} (names : List (String × α)) : Reader α := do
  let expected := " or ".intercalate (names.map fun n => "`" ++ n.1 ++ "`")
  let name : Reader α := do
    let s ← stringAs "variant identifier"
    match names.lookup s with
    | some a => pure a
    | none => failHere (.unknownVariant s expected)
  match ← peek with
  | none => failHere .endInValue
  | some '"' => name
  | some '\x7b' =>
    advance
    match ← peek with
    | none => failHere .endInObject
    | some '"' =>
      let a ← name
      colon
      unit
      match ← peek with
      | some '\x7d' =>
        advance
        pure a
      | some _ => failHere .expectedValue
      | none => failHere .endInObject
    | some '\x7d' => failAhead .expectedValue
    | some _ => failAhead .keyMustBeString
  | some _ => failAhead .expectedValue

/-- A field of a record that is drafted as a `δ`. -/
structure Slot (δ : Type) where
  name : String
  filled : δ → Bool
  read : Reader (δ → δ)

variable {δ α : Type}

def recordEntries (slots : List (Slot δ)) : Nat → Bool → δ → Reader δ
  | 0, _, _ => failHere .endInObject
  | fuel + 1, first, draft => do
    if ← hasKey first then
      let key ← string
      match slots.find? (·.name == key) with
      | some slot =>
        if slot.filled draft then
          if (← peek) = some '\x7d' then advance
          failHere (.duplicateField key)
        else
          colon
          let fill ← slot.read
          recordEntries slots fuel false (fill draft)
      | none =>
        colon
        skipValue
        recordEntries slots fuel false draft
    else
      endObject
      pure draft

/-- Fills the slots in order from a list and counts the ones that were there. -/
def recordItems : List (Slot δ) → Bool → Nat → δ → Reader (Nat × δ)
  | [], _, count, draft => pure (count, draft)
  | slot :: more, first, count, draft => do
    if ← hasItem first then
      let fill ← slot.read
      recordItems more false (count + 1) (fill draft)
    else pure (count, draft)

def orFail (result : Except Fault α) : Reader α :=
  match result with
  | .ok a => pure a
  | .error fault => failHere fault

/-- A record from a blank draft; `ofObject` and `ofList` say what to do about missing fields. -/
def record (expected : String) (slots : List (Slot δ)) (blank : δ)
    (ofObject : δ → Except Fault α) (ofList : Nat → δ → Except Fault α) : Reader α := do
  match ← peek with
  | some '\x7b' =>
    advance
    let draft ← recordEntries slots ((← remaining) + 1) true blank
    orFail (ofObject draft)
  | some '[' =>
    advance
    let (count, draft) ← recordItems slots true 0 blank
    endList
    orFail (ofList count draft)
  | _ => mistyped expected

end Reader
end BeamRun.Json
