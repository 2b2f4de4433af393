namespace BeamRun.Text

/-- The Unicode property White_Space. -/
def isBlank (c : Char) : Bool :=
  let n := c.toNat
  (0x09 ≤ n && n ≤ 0x0d) || n = 0x20 || n = 0x85 || n = 0xa0 || n = 0x1680 ||
    (0x2000 ≤ n && n ≤ 0x200a) || n = 0x2028 || n = 0x2029 || n = 0x202f || n = 0x205f || n = 0x3000

def dropBlanks (cs : List Char) : List Char := cs.dropWhile isBlank

def trim (cs : List Char) : List Char := (dropBlanks (dropBlanks cs).reverse).reverse

/-- Without the underscores, and with a capital behind each of them and, if so asked, in front. -/
def capitalized : Bool → List Char → List Char
  | _, [] => []
  | first, c :: cs =>
    if c = '_' then capitalized true cs
    else (if first then c.toUpper else c) :: capitalized false cs

/-- Words joined by underscores, joined by capitals instead; the first one begins with a small letter. -/
def camelCase (s : String) : String :=
  match capitalized true s.toList with
  | [] => ""
  | c :: cs => String.ofList (c.toLower :: cs)

def lowerCase (s : String) : String := String.ofList (s.toList.map Char.toLower)

/-- The pieces between the occurrences of a character; there is always at least one. -/
def split (sep : Char) : List Char → List (List Char)
  | [] => [[]]
  | c :: cs =>
    if c = sep then [] :: split sep cs
    else
      match split sep cs with
      | piece :: pieces => (c :: piece) :: pieces
      | [] => [[c]]

def pieces (sep : Char) (s : String) : List String := (split sep s.toList).map String.ofList

/-- Puts `extra` behind each `mark`; the first `left` characters are the rest of one. -/
def behindMarks (mark extra : List Char) : Nat → List Char → List Char
  | _, [] => []
  | 0, c :: cs =>
    if mark.isPrefixOf (c :: cs) then c :: behindMarks mark extra (mark.length - 1) cs
    else c :: behindMarks mark extra 0 cs
  | 1, c :: cs => c :: extra ++ behindMarks mark extra 0 cs
  | left + 2, c :: cs => c :: behindMarks mark extra (left + 1) cs

def byteCount : List Char → Nat
  | [] => 0
  | c :: cs => c.utf8Size + byteCount cs

/-- The characters that fit into so many bytes. -/
def firstBytes : Nat → List Char → List Char
  | _, [] => []
  | n, c :: cs => if c.utf8Size ≤ n then c :: firstBytes (n - c.utf8Size) cs else []

def afterBytes (n : Nat) (cs : List Char) : List Char := cs.drop (firstBytes n cs).length

abbrev Scan (α : Type) := StateT (List Char) Option α

namespace Scan

def refuse {α : Type} : Scan α := fun _ => none

def orRefuse {α : Type} : Option α → Scan α
  | some a => pure a
  | none => refuse

def peek : Scan (Option Char) := fun cs => some (cs.head?, cs)

def skip (n : Nat) : Scan Unit := modify (·.drop n)

def remaining : Scan Nat := fun cs => some (cs.length, cs)

/-- Whether a text comes next; it is read if so. -/
def tryText (text : List Char) : Scan Bool := do
  if text.isPrefixOf (← get) then
    skip text.length
    pure true
  else pure false

def expect (c : Char) : Scan Unit := do
  unless ← tryText [c] do refuse

def takeWhile (p : Char → Bool) : Scan (List Char) := do
  let cs := (← get).takeWhile p
  skip cs.length
  pure cs

def whole? {α : Type} (s : Scan α) (cs : List Char) : Option α :=
  match s cs with
  | some (a, []) => some a
  | _ => none

end Scan
end BeamRun.Text
