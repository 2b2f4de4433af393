import BeamRun.Decimal
import BeamRun.Entries

/-! JSON values: exact whole numbers of 64 bits, finite binary64 numbers, objects in key order. -/

namespace BeamRun

abbrev WholeNumber := { n : Int // -0x8000000000000000 ≤ n ∧ n < 0x10000000000000000 }

abbrev FiniteNumber := { x : Binary64 // x.isFinite = true }

inductive Number where
  | whole (n : WholeNumber)
  | real (x : FiniteNumber)
  deriving DecidableEq

inductive Json where
  | null
  | bool (b : Bool)
  | number (n : Number)
  | string (s : String)
  | array (items : List Json)
  | object (entries : List (String × Json))

namespace Number

def toBinary64 : Number → Binary64
  | whole n => Binary64.ofInt n.val
  | real x => x.val

/-- How numbers stand in documents: without exponent from `1e-5` up to `1e16`, whole reals with `.0`. -/
def layout : Decimal.Layout := ⟨.even, fun k => -5 ≤ k && k ≤ 15, ['.', '0']⟩

def chars : Number → List Char
  | whole n => Decimal.ofInt n.val
  | real x => layout.text x.val

def text (n : Number) : String := String.ofList n.chars

/-- A whole number is never the same as a real one; the two real zeros are the same. -/
def same : Number → Number → Bool
  | whole n, whole m => n == m
  | real x, real y => x.val.sameValue y.val
  | _, _ => false

end Number

namespace Json

inductive Kind where
  | null
  | boolean
  | number
  | string
  | array
  | object
  deriving DecidableEq, Repr

def Kind.name : Kind → String
  | null => "null"
  | boolean => "boolean"
  | number => "number"
  | string => "string"
  | array => "array"
  | object => "object"

def kind : Json → Kind
  | null => .null
  | bool _ => .boolean
  | number _ => .number
  | string _ => .string
  | array _ => .array
  | object _ => .object

def ofCount (n : UInt64) : Json :=
  number (.whole ⟨n.toNat, by have := n.toNat_lt; omega⟩)

/-- Infinities and NaNs have no written form and become `null`. -/
def ofBinary64 (x : Binary64) : Json :=
  if h : x.isFinite = true then number (.real ⟨x, h⟩) else null

mutual
def same : Json → Json → Bool
  | null, null => true
  | bool a, bool b => a == b
  | number a, number b => a.same b
  | string a, string b => a == b
  | array a, array b => sameItems a b
  | object a, object b => sameEntries a b
  | _, _ => false

def sameItems : List Json → List Json → Bool
  | [], [] => true
  | a :: as, b :: bs => same a b && sameItems as bs
  | _, _ => false

def sameEntries : List (String × Json) → List (String × Json) → Bool
  | [], [] => true
  | (k, a) :: as, (l, b) :: bs => k == l && same a b && sameEntries as bs
  | _, _ => false
end

end Json
end BeamRun

/-! JSON text: compact, and indented by two blanks a level. -/

namespace BeamRun.Json

def escapeChar (c : Char) : List Char :=
  if c = '"' then ['\\', '"']
  else if c = '\\' then ['\\', '\\']
  else if c = '\n' then ['\\', 'n']
  else if c = '\r' then ['\\', 'r']
  else if c = '\t' then ['\\', 't']
  else if c.toNat = 0x08 then ['\\', 'b']
  else if c.toNat = 0x0c then ['\\', 'f']
  else if c.toNat < 0x20 then ['\\', 'u'] ++ (Decimal.hexDigits c.toNat).leftpad 4 '0'
  else [c]

def stringChars (s : String) : List Char := '"' :: s.toList.flatMap escapeChar ++ ['"']

mutual
def chars : Json → List Char
  | null => ['n', 'u', 'l', 'l']
  | bool true => ['t', 'r', 'u', 'e']
  | bool false => ['f', 'a', 'l', 's', 'e']
  | number n => n.chars
  | string s => stringChars s
  | array items => '[' :: itemChars true items ++ [']']
  | object entries => '\x7b' :: entryChars true entries ++ ['\x7d']

def itemChars (first : Bool) : List Json → List Char
  | [] => []
  | item :: rest => (if first then [] else [',']) ++ chars item ++ itemChars false rest

def entryChars (first : Bool) : List (String × Json) → List Char
  | [] => []
  | (key, item) :: rest =>
    (if first then [] else [',']) ++ stringChars key ++ ':' :: chars item ++ entryChars false rest
end

def lineBreak (level : Nat) : List Char := '\n' :: List.replicate (2 * level) ' '

mutual
def prettyChars (level : Nat) : Json → List Char
  | array (item :: rest) =>
    '[' :: prettyItems (level + 1) true (item :: rest) ++ lineBreak level ++ [']']
  | object (entry :: rest) =>
    '\x7b' :: prettyEntries (level + 1) true (entry :: rest) ++ lineBreak level ++ ['\x7d']
  | other => chars other

def prettyItems (level : Nat) (first : Bool) : List Json → List Char
  | [] => []
  | item :: rest =>
    (if first then [] else [',']) ++ lineBreak level ++ prettyChars level item ++
      prettyItems level false rest

def prettyEntries (level : Nat) (first : Bool) : List (String × Json) → List Char
  | [] => []
  | (key, item) :: rest =>
    (if first then [] else [',']) ++ lineBreak level ++ stringChars key ++ ':' :: ' ' ::
      prettyChars level item ++ prettyEntries level false rest
end

def text (v : Json) : String := String.ofList v.chars

def pretty (v : Json) : String := String.ofList (v.prettyChars 0)

end BeamRun.Json
