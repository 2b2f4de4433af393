import BeamRun.Decimal
import BeamRun.Settings.Layer
import BeamRun.Text

/-! Settings from environment variables: their names, and the values that their texts write. -/

namespace BeamRun.Settings.Variable

open Text.Scan

def isBlank (c : Char) : Bool := c = ' ' || c = '\t' || c = '\n' || c = '\r' || c.toNat = 0x0c

def isSeparator (c : Char) : Bool :=
  c = ',' || c = '\x7b' || c = '\x7d' || c = '[' || c = ']'

def isKeyPart (c : Char) : Bool := c.isAlphanum || c = '_' || c = '-'

def blanks : Text.Scan Unit := discard (takeWhile isBlank)

/-- Characters up to the next quote without a backslash, which stay as they are. -/
def quotedBody : Nat → List Char → Text.Scan (List Char)
  | 0, _ => refuse
  | fuel + 1, read => do
    let some c ← peek | refuse
    if c = '"' then pure read.reverse
    else
      skip 1
      if c = '\\' then
        let some escaped ← peek | refuse
        skip 1
        quotedBody fuel (escaped :: c :: read)
      else quotedBody fuel (c :: read)

def codePoint? (ds : List Char) : Option Char :=
  let n := Decimal.hexValue ds
  if ds.all Decimal.isHexDigit && (n < 0xD800 || (0xE000 ≤ n && n < 0x110000)) then
    some (Char.ofNat n)
  else none

def isPlain (c : Char) : Bool := c = '\t' || (0x20 ≤ c.toNat && c.toNat ≠ 0x7f)

def unescaped? : List Char → Option (List Char)
  | '\\' :: 'u' :: a :: b :: c :: d :: rest => do
    return (← codePoint? [a, b, c, d]) :: (← unescaped? rest)
  | '\\' :: 'U' :: a :: b :: c :: d :: e :: f :: g :: h :: rest => do
    return (← codePoint? [a, b, c, d, e, f, g, h]) :: (← unescaped? rest)
  | '\\' :: '"' :: rest => (unescaped? rest).map ('"' :: ·)
  | '\\' :: '\\' :: rest => (unescaped? rest).map ('\\' :: ·)
  | '\\' :: 'b' :: rest => (unescaped? rest).map (Char.ofNat 0x08 :: ·)
  | '\\' :: 'f' :: rest => (unescaped? rest).map (Char.ofNat 0x0c :: ·)
  | '\\' :: 'n' :: rest => (unescaped? rest).map ('\n' :: ·)
  | '\\' :: 'r' :: rest => (unescaped? rest).map ('\r' :: ·)
  | '\\' :: 't' :: rest => (unescaped? rest).map ('\t' :: ·)
  | '\\' :: _ => none
  | c :: rest => if isPlain c then (unescaped? rest).map (c :: ·) else none
  | [] => some []

/-- The text that the inside of quotes writes. In front of the first escape only as many bytes are kept
as there are characters. -/
def unquoted? (cs : List Char) : Option (List Char) :=
  let plain := cs.takeWhile (· ≠ '\\')
  let escapes := cs.drop plain.length
  if !plain.all isPlain then none
  else if escapes.isEmpty then some plain
  else (unescaped? escapes).map (Text.firstBytes plain.length plain ++ ·)

def string : Text.Scan String := do
  expect '"'
  let body ← quotedBody ((← remaining) + 1) []
  expect '"'
  String.ofList <$> orRefuse (unquoted? body)

def key : Text.Scan String := do
  if (← peek) = some '"' then string
  else
    let cs ← takeWhile isKeyPart
    if cs.isEmpty then refuse
    pure (String.ofList cs)

/-- Whole numbers of 64 bits, unsigned where they can be. -/
def integer? (cs : List Char) : Option Content :=
  let (negative, ds) := Decimal.splitSign cs
  let n := Decimal.value ds
  if ds.isEmpty || !ds.all Char.isDigit then none
  else if negative then if n ≤ 0x8000000000000000 then some (.signed (-(n : Int))) else none
  else if n < 0x10000000000000000 then some (.unsigned n)
  else none

def word (cs : List Char) : Content :=
  let real? := if '.' ∈ cs then Decimal.ofText? cs else none
  match real? with
  | some x => .real x
  | none => (integer? cs).getD (.text (String.ofList cs))

/-- Items up to a closing bracket, with a comma between each two and perhaps one behind the last. -/
def items {α : Type} (close : Char) (item : Text.Scan α) : Nat → List α → Text.Scan (List α)
  | 0, _ => refuse
  | fuel + 1, read => do
    if ← tryText [close] then pure read.reverse
    else
      let v ← item
      if ← tryText [','] then items close item fuel (v :: read)
      else
        expect close
        pure (v :: read).reverse

def leaf (c : Content) : Setting := .leaf .environment c

def entry (item : Text.Scan Setting) : Text.Scan (String × Setting) := do
  blanks
  let k ← key
  blanks
  expect '='
  pure (k, ← item)

def value : Nat → Text.Scan Setting
  | 0 => refuse
  | depth + 1 => do
    blanks
    let v ← unpadded (value depth)
    blanks
    pure v
where
  unpadded (nested : Text.Scan Setting) : Text.Scan Setting := do
    let fuel := (← remaining) + 1
    if ← tryText "true".toList then pure (leaf (.flag true))
    else if ← tryText "false".toList then pure (leaf (.flag false))
    else
      match ← peek with
      | some '\x7b' =>
        skip 1
        let entries ← items '\x7d' (entry nested) fuel []
        pure (.table .environment (Entries.ofList entries))
      | some '[' =>
        skip 1
        let _ ← items ']' nested fuel []
        pure (leaf .sequence)
      | some '"' => return leaf (.text (← string))
      | some '\'' =>
        skip 1
        let some c ← peek | refuse
        skip 1
        expect '\''
        pure (leaf (.letter c))
      | _ =>
        let cs ← takeWhile (!isSeparator ·)
        pure (leaf (word (Text.trim cs)))

/-- A text that writes no value stands for itself. -/
def ofText (text : String) : Setting :=
  let cs := text.toList
  ((value (cs.length + 1)).whole? cs).getD (leaf (.text text))

/-- The keys that a variable's name leads to, if it is one of ours. -/
def path? (name : String) : Option (List String) :=
  let cs := Text.trim name.toList
  let lead := variablePrefix.toList
  if (cs.take lead.length).map Char.toUpper = lead then
    let keys := Text.split '.' ((Text.trim (cs.drop lead.length)).map Char.toLower)
    if keys.any (·.isEmpty) then none else some (keys.map String.ofList)
  else none

/-- All variables as a layer, later ones over earlier ones. -/
def layer (environment : List (String × String)) : Layer :=
  environment.foldl (fun base v =>
    match path? v.1 with
    | some (key :: keys) =>
      Setting.joinEntries base [(key, Setting.nested .environment keys (ofText v.2))]
    | _ => base) []

end BeamRun.Settings.Variable
