import BeamRun.Decimal
import BeamRun.Entries
import BeamRun.Failure
import BeamRun.Settings
import BeamRun.Toml.Document

/-! Layers of settings: values with the source that set them, and how later layers win. -/

namespace BeamRun.Settings

inductive Content where
  | text (s : String)
  /-- Told like a text, but no name. -/
  | letter (c : Char)
  | flag (b : Bool)
  | signed (n : Int)
  | unsigned (n : Nat)
  | real (x : Binary64)
  | sequence
  deriving DecidableEq, Repr

def Content.describe : Content → String
  | text s => "string " ++ Text.quoted s
  | letter c => "string " ++ Text.quoted c.toString
  | flag true => "bool true"
  | flag false => "bool false"
  | signed n => "signed int `" ++ String.ofList (Decimal.ofInt n) ++ "`"
  | unsigned n => "unsigned int `" ++ String.ofList (Decimal.digits n) ++ "`"
  | real x => "float `" ++ Decimal.plainText x ++ "`"
  | sequence => "sequence"

inductive Setting where
  | leaf (source : Source) (content : Content)
  | table (source : Source) (entries : List (String × Setting))

namespace Setting

def source : Setting → Source
  | leaf s _ => s
  | table s _ => s

def describe : Setting → String
  | leaf _ c => c.describe
  | table _ _ => "map"

mutual
/-- Sets a value over an earlier one: tables are joined, anything else is replaced. -/
def joined (earlier : Option Setting) : Setting → Setting
  | leaf s c => leaf s c
  | table s entries =>
    match earlier with
    | some (table _ base) => table s (joinEntries base entries)
    | _ => table s (joinEntries [] entries)

def joinEntries (base : List (String × Setting)) :
    List (String × Setting) → List (String × Setting)
  | [] => base
  | (key, v) :: rest =>
    joinEntries (Entries.insert key (joined (Entries.get? base key) v) base) rest
end

def nested (source : Source) (path : List String) (v : Setting) : Setting :=
  path.foldr (fun key v => table source [(key, v)]) v

end Setting

abbrev Layer := List (String × Setting)

/-- All layers in one, later ones over earlier ones. -/
def flatten (layers : List Layer) : Layer := layers.foldl Setting.joinEntries []

def builtinLayer : Layer :=
  [("neutron_cutoff", .leaf .builtin (.text lenient.neutronCutoff.name)),
    ("unknown_keys", .leaf .builtin (.text lenient.unknownKeys.name))]

/-- The policy of that name; a table would have to hold nothing but a name, and none does. What is wrong
inside a table is laid to whatever set the entry. -/
def decode {α : Type} (type : String) (names : List (String × α)) (key : String) (v : Setting) :
    Except Fault α :=
  let mistaken (m : Mistake) (path : List String) (source : Source) : Except Fault α :=
    .error (.mistaken m (key :: path) source)
  let expected := names.map (·.1)
  match v with
  | .leaf source (.text s) =>
    (names.lookup s).elim (mistaken (.unknownVariant s expected) [] source) .ok
  | .leaf source c => mistaken (.invalidType c.describe ("enum " ++ type)) [] source
  | .table source [] => mistaken (.invalidType "map" "enum") [] source
  | .table _ ((name, inner) :: _) =>
    if name ∈ expected then mistaken (.invalidType inner.describe "unit") [name] inner.source
    else mistaken (.unknownVariant name expected) [name] inner.source

def decodeKey {α : Type} (type : String) (names : List (String × α)) (key : String) (fallback : α)
    (layer : Layer) : Except Fault α :=
  match Entries.get? layer key with
  | some v => decode type names key v
  | none => .ok fallback

/-- Settings from a flattened layer, the cut-off policy first. -/
def ofLayer (layer : Layer) : Except Fault Settings := do
  let neutronCutoff ← decodeKey "NeutronCutoffPolicy"
    (NeutronCutoffPolicy.all.map fun p => (p.name, p)) "neutron_cutoff" lenient.neutronCutoff layer
  let unknownKeys ← decodeKey "UnknownKeyPolicy"
    (UnknownKeyPolicy.all.map fun p => (p.name, p)) "unknown_keys" lenient.unknownKeys layer
  pure ⟨unknownKeys, neutronCutoff⟩

/-- The key under which a date or a time stands as a table. -/
def datetimeKey : String := "$__toml_private_datetime"

mutual
def ofToml (source : Source) : Toml.Value → Setting
  | .scalar (.string s) => .leaf source (.text s)
  | .scalar (.integer n) => .leaf source (.signed n)
  | .scalar (.float x) => .leaf source (.real x)
  | .scalar (.boolean b) => .leaf source (.flag b)
  | .scalar .datetime => .table source [(datetimeKey, .leaf source (.text ""))]
  | .array _ => .leaf source .sequence
  | .table entries => .table source (ofTomlEntries source entries)

def ofTomlEntries (source : Source) : List (String × Toml.Value) → Layer
  | [] => []
  | (key, v) :: rest => Entries.insert key (ofToml source v) (ofTomlEntries source rest)
end

end BeamRun.Settings
