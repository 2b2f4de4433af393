import BeamRun.Json.Reader

/-! Reading over values that nobody asked for: their shape is checked, their content is not. -/

namespace BeamRun.Json.Reader

def skipEscape : Reader Unit := do
  match ← peekChar with
  | none => failHere .endInString
  | some 'u' =>
    advance
    let _ ← fourHexDigits
  | some c => if (escapedChar c).isSome then advance else failAhead .invalidEscape

def skipStringTail : Nat → Reader Unit
  | 0 => failHere .endInString
  | fuel + 1 => do
    match ← peekChar with
    | none => failHere .endInString
    | some '"' => advance
    | some '\\' =>
      advance
      skipEscape
      skipStringTail fuel
    | some c =>
      if c.toNat < 0x20 then failHere .controlCharacter
      else
        advance
        skipStringTail fuel

def skipString : Reader Unit := do
  skipStringTail ((← remaining) + 1)

def skipNumber (negative : Bool) : Reader Unit := do
  let _ ← numeral .invalidNumber negative

/-- Whether the bracket `close` ends a skipped list or object; a comma in front of more is read. -/
def skipEnds (close : Char) (atEnd noComma : Fault) (first : Bool) : Reader Bool := do
  match ← peek with
  | none => failHere atEnd
  | some c =>
    if c = close then
      advance
      pure true
    else if first then pure false
    else if c = ',' then
      advance
      pure false
    else failAhead noComma

def skipItems (item : Reader Unit) : Nat → Bool → Reader Unit
  | 0, _ => failHere .endInList
  | fuel + 1, first => do
    if ← skipEnds ']' .endInList .expectedListComma first then pure ()
    else
      item
      skipItems item fuel false

def skipEntries (item : Reader Unit) : Nat → Bool → Reader Unit
  | 0, _ => failHere .endInObject
  | fuel + 1, first => do
    if ← skipEnds '\x7d' .endInObject .expectedObjectComma first then pure ()
    else
      match ← peek with
      | none => failHere .endInObject
      | some '"' =>
        advance
        skipString
        colon
        item
        skipEntries item fuel false
      | some _ => failAhead .keyMustBeString

def skipNested : Nat → Reader Unit
  | 0 => failHere .endInValue
  | fuel + 1 => do
    match ← peek with
    | none => failHere .endInValue
    | some 'n' =>
      advance
      word ['u', 'l', 'l']
    | some 't' =>
      advance
      word ['r', 'u', 'e']
    | some 'f' =>
      advance
      word ['a', 'l', 's', 'e']
    | some '-' =>
      advance
      skipNumber true
    | some '"' =>
      advance
      skipString
    | some '[' =>
      advance
      skipItems (skipNested fuel) ((← remaining) + 1) true
    | some '\x7b' =>
      advance
      skipEntries (skipNested fuel) ((← remaining) + 1) true
    | some c => if c.isDigit then skipNumber false else failAhead .expectedValue

def skipValue : Reader Unit := do
  skipNested ((← remaining) + 1)

end BeamRun.Json.Reader
