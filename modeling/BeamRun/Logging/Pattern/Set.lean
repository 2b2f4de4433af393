import BeamRun.Decimal
import BeamRun.Text

/-! The smallest parts of a pattern: characters and escapes, and the manner in which a part of a pattern
is read. No tables of scripts are at hand, so words, digits, blanks and case are known to a pattern only
where it asks for bytes. -/

namespace BeamRun.Logging.Pattern

/-- A character of a pattern, or what an escape stands for. -/
inductive Atom where
  | plain (c : Char)
  | literal (c : Char)
  /-- A literal by two hexadecimal digits. -/
  | byte (c : Char)
  | kind
  | otherKind
  | edge
  | wordEdge
  deriving DecidableEq, Repr

structure Manner where
  anyCase : Bool
  bytes : Bool
  /-- Blanks and comments stand between the items. -/
  spaced : Bool
  deriving DecidableEq, Repr

/-- What is left behind blanks and comments. -/
def dropSpace (comment : Bool) : List Char → List Char
  | [] => []
  | c :: cs =>
    if comment then dropSpace (c ≠ '\n') cs
    else if Text.isBlank c then dropSpace false cs
    else if c = '#' then dropSpace true cs
    else c :: cs

namespace Manner

def plain : Manner := ⟨false, false, false⟩

def skip (m : Manner) (cs : List Char) : List Char := if m.spaced then dropSpace false cs else cs

/-- The character that a look ahead finds. It passes over blanks and the first mark of a comment, not
over the comment, and falls back to the very next character where nothing else is left. -/
def peek? (m : Manner) (cs : List Char) : Option Char :=
  if !m.spaced then cs.head?
  else
    let found :=
      match Text.dropBlanks cs with
      | '#' :: rest => (Text.dropBlanks rest).head?
      | rest => rest.head?
    found.or cs.head?

/-- What a flag means once all flags of a group are there; those behind a minus sign are taken back. -/
def switched (flags : List Char) (flag : Char) (before : Bool) : Bool :=
  let given := flags.takeWhile (· ≠ '-')
  let takenBack := flags.drop given.length
  (before || given.contains flag) && !takenBack.contains flag

def adjusted (m : Manner) (flags : List Char) : Manner :=
  ⟨switched flags 'i' m.anyCase, !switched flags 'u' (!m.bytes), switched flags 'x' m.spaced⟩

/-- Whether a character between brackets can be told from others. -/
def allowsMember (m : Manner) (c : Char) : Bool := if m.bytes then c.toNat < 0x80 else !m.anyCase

/-- Whether an atom outside brackets can be matched. -/
def allows (m : Manner) : Atom → Bool
  | .plain '.' => !m.bytes
  | .plain '^' => true
  | .plain '$' => true
  | .plain _ => m.bytes || !m.anyCase
  | .literal _ => m.bytes || !m.anyCase
  | .byte c => m.allowsMember c
  | .kind => m.bytes
  | .otherKind => false
  | .edge => true
  | .wordEdge => m.bytes

end Manner

namespace Atom

def char? : Atom → Option Char
  | plain c => some c
  | literal c => some c
  | byte c => some c
  | _ => none

def allowedInSet (m : Manner) (a : Atom) : Bool :=
  match a.char? with
  | some c => m.allowsMember c
  | none => a = kind && m.bytes

def codeWidth? (c : Char) : Option Nat := [('x', 2), ('u', 4), ('U', 8)].lookup c

/-- Reads digits of a code behind those of `value`. -/
def readCode (m : Manner) : Nat → Nat → List Char → Option (Nat × List Char)
  | 0, value, cs => some (value, cs)
  | n + 1, value, cs =>
    match m.skip cs with
    | c :: rest =>
      if Decimal.isHexDigit c then readCode m n (16 * value + Decimal.hexDigitValue c) rest else none
    | [] => none

def isMark (c : Char) : Bool := c.toNat < 0x80 && !c.isAlphanum && c ≠ '<' && c ≠ '>'

def controls : List (Char × Char) :=
  [('a', '\x07'), ('f', '\x0c'), ('t', '\t'), ('n', '\n'), ('r', '\r'), ('v', '\x0b')]

def ofEscaped? (c : Char) : Option Atom :=
  if isMark c then some (literal c)
  else if ['d', 's', 'w'].contains c then some kind
  else if ['D', 'S', 'W'].contains c then some otherKind
  else if ['A', 'z'].contains c then some edge
  else if ['b', 'B', '<', '>'].contains c then some wordEdge
  else (controls.lookup c).map literal

def readEscape (m : Manner) : List Char → Option (Atom × List Char)
  | [] => none
  | c :: cs =>
    match codeWidth? c with
    | some width => do
      let (code, rest) ← readCode m width 0 cs
      if code.isValidChar then
        some (if width = 2 then byte (Char.ofNat code) else literal (Char.ofNat code), rest)
      else none
    | none => (ofEscaped? c).map fun a => (a, cs)

def read (m : Manner) (c : Char) (rest : List Char) : Option (Atom × List Char) :=
  if c = '\\' then readEscape m rest else some (plain c, rest)

end Atom

def deepest (depths : List Nat) : Nat := depths.foldl max 0

/-- Two or more things beside each other are one level deeper than the deepest of them. -/
def depthBeside (depths : List Nat) : Nat :=
  match depths with
  | [] => 0
  | [d] => d
  | ds => deepest ds + 1

structure Bracket where
  /-- Nothing but hyphens stands behind the opening bracket. -/
  fresh : Bool
  /-- Depths of the items since the last operator. -/
  items : List Nat
  /-- Depth of what stands before the last operator. -/
  left : Option Nat
  deriving DecidableEq, Repr

namespace Bracket

def opened : Bracket := ⟨true, [], none⟩

def add (b : Bracket) (depth : Nat) : Bracket := { b with fresh := false, items := depth :: b.items }

def inner (b : Bracket) : Nat :=
  match b.left with
  | some d => max d (depthBeside b.items) + 1
  | none => depthBeside b.items

def operate (b : Bracket) : Bracket := ⟨false, [], some b.inner⟩

end Bracket

def setNames : List String :=
  ["alnum", "alpha", "ascii", "blank", "cntrl", "digit", "graph", "lower", "print", "punct", "space",
    "upper", "word", "xdigit"]

/-- A set by its name between colons, which stands behind a bracket; whether it is negated, and what
follows it. -/
def namedSet? : List Char → Option (Bool × List Char)
  | ':' :: cs =>
    let negated := cs.head? = some '^'
    let cs := if negated then cs.drop 1 else cs
    let name := cs.takeWhile (· ≠ ':')
    match cs.drop name.length with
    | ':' :: ']' :: rest => if setNames.contains (String.ofList name) then some (negated, rest) else none
    | _ => none
  | _ => none

/-- Goes into a bracket; without its opposite nothing is known of the bytes beyond the first 128. -/
def openBracket? (m : Manner) (cs : List Char) : Option (List Char) :=
  match m.skip cs with
  | '^' :: rest => if m.bytes then none else some rest
  | rest => some rest

/-- Reads a character, a kind of characters, or a range, with what follows it. -/
def readMember (m : Manner) (c : Char) (rest : List Char) : Option (List Char) := do
  let (low, rest) ← Atom.read m c rest
  match m.skip rest with
  | '-' :: behind =>
    if m.peek? behind = some ']' ∨ m.peek? behind = some '-' then
      if low.allowedInSet m then some ('-' :: behind) else none
    else
      match m.skip behind with
      | [] => none
      | c :: rest => do
        let (high, rest) ← Atom.read m c rest
        let first ← low.char?
        let last ← high.char?
        if m.allowsMember first && m.allowsMember last && first ≤ last then some rest else none
  | rest => if low.allowedInSet m then some rest else none

def isOperator (c : Char) : Bool := c = '&' || c = '-' || c = '~'

/-- Reads the next thing inside a bracket, the innermost of some; what is open behind it comes first. -/
def Bracket.step (m : Manner) (b : Bracket) (outer : List Bracket) (c : Char) (rest : List Char) :
    Option (List Bracket × List Char) :=
  if b.fresh ∧ c = '-' then
    if m.allowsMember c then some ({ b with items := 0 :: b.items } :: outer, rest) else none
  else if b.fresh ∧ c = ']' ∧ b.items = [] then
    if m.allowsMember c then some (b.add 0 :: outer, rest) else none
  else if c = '[' then
    match namedSet? rest with
    | some (negated, rest) =>
      if if m.bytes then !negated else !m.anyCase then some (b.add 0 :: outer, rest) else none
    | none => (openBracket? m rest).map fun rest => (opened :: { b with fresh := false } :: outer, rest)
  else if isOperator c ∧ rest.head? = some c then some (b.operate :: outer, rest.drop 1)
  else (readMember m c rest).map fun rest => (b.add 0 :: outer, rest)

end BeamRun.Logging.Pattern
