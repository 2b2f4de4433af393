import BeamRun.Logging.Pattern.Set
import BeamRun.Text.Alphanumeric

/-! Patterns for the values of fields: which texts are well formed and not nested too deep. -/

namespace BeamRun.Logging.Pattern

structure Level where
  /-- Depths of the items of the last branch, the last item first; flags cannot be repeated and are
  `none`. -/
  items : List (Option Nat)
  /-- Depths of the branches before it. -/
  branches : List Nat
  deriving DecidableEq, Repr

namespace Level

def empty : Level := ⟨[], []⟩

def branchDepth (l : Level) : Nat := depthBeside (l.items.map (·.getD 0))

def depth (l : Level) : Nat := depthBeside (l.branchDepth :: l.branches)

def add (l : Level) (d : Option Nat) : Level := { l with items := d :: l.items }

def branch (l : Level) : Level := ⟨[], l.branchDepth :: l.branches⟩

def repeat? (l : Level) : Option Level :=
  match l.items with
  | some d :: rest => some { l with items := some (d + 1) :: rest }
  | _ => none

end Level

structure State where
  level : Level
  manner : Manner
  /-- What lies around the open groups, the innermost first. -/
  outer : List (Level × Manner)
  brackets : List Bracket
  names : List (List Char)
  deriving DecidableEq, Repr

namespace State

def start : State := ⟨.empty, .plain, [], [], []⟩

def add (s : State) (d : Option Nat) : State := { s with level := s.level.add d }

def enter (s : State) (m : Manner) : State :=
  { s with level := .empty, manner := m, outer := (s.level, s.manner) :: s.outer }

def leave (s : State) : Option State :=
  match s.outer with
  | (level, manner) :: outer =>
    some { s with level := level.add (some (s.level.depth + 1)), manner, outer }
  | [] => none

def startsName (c : Char) : Bool := c = '_' || Text.isAlphabetic c

def continuesName (c : Char) : Bool := ['_', '.', '[', ']'].contains c || Text.isAlphanumeric c

/-- The name of a group, up to an angle bracket; no two groups have the same. -/
def named (s : State) (cs : List Char) : Option (State × List Char) :=
  let name := cs.takeWhile (· ≠ '>')
  match cs.drop name.length with
  | '>' :: rest =>
    if name.head?.any startsName && name.all continuesName && !s.names.contains name then
      some ({ s.enter s.manner with names := name :: s.names }, rest)
    else none
  | _ => none

def flagMarks : List Char := ['-', 'i', 'm', 's', 'U', 'u', 'R', 'x']

def areFlags : List Char → Bool
  | [] => true
  | c :: cs => flagMarks.contains c && !cs.contains c && areFlags cs

/-- Flags hold for the rest of the group around them, or for a group of their own. -/
def flagged (s : State) (cs : List Char) : Option (State × List Char) :=
  let flags := cs.takeWhile fun c => c ≠ ':' ∧ c ≠ ')'
  if !areFlags flags || flags.getLast? = some '-' then none
  else
    match cs.drop flags.length with
    | ':' :: rest => some (s.enter (s.manner.adjusted flags), rest)
    | ')' :: rest =>
      if flags.isEmpty then none
      else some ({ s.add none with manner := s.manner.adjusted flags }, rest)
    | _ => none

def group (s : State) (cs : List Char) : Option (State × List Char) :=
  match s.manner.skip cs with
  | '?' :: 'P' :: '<' :: rest => s.named rest
  | '?' :: '<' :: rest => s.named rest
  | '?' :: rest => s.flagged rest
  | rest => some (s.enter s.manner, rest)

/-- Repeats the last item; a question mark right behind makes it a short repetition. -/
def repeated (s : State) (rest : List Char) : Option (State × List Char) :=
  s.level.repeat?.map fun level =>
    ({ s with level }, if rest.head? = some '?' then rest.drop 1 else rest)

def item (s : State) (c : Char) (rest : List Char) : Option (State × List Char) :=
  match c with
  | '(' => s.group rest
  | ')' => s.leave.map fun s => (s, rest)
  | '|' => some ({ s with level := s.level.branch }, rest)
  | '[' => (openBracket? s.manner rest).map fun rest => ({ s with brackets := [.opened] }, rest)
  | '*' => s.repeated rest
  | '+' => s.repeated rest
  | '?' => s.repeated rest
  | '\x7b' => none
  | c => do
    let (a, rest) ← Atom.read s.manner c rest
    if s.manner.allows a then some (s.add (some 0), rest) else none

/-- Closes the innermost bracket, which becomes an item of what lies around it. -/
def closeBracket (s : State) (b : Bracket) (outer : List Bracket) : State :=
  match outer with
  | around :: outer => { s with brackets := around.add (b.inner + 1) :: outer }
  | [] => { s.add (some (b.inner + 1)) with brackets := [] }

def step (s : State) (c : Char) (rest : List Char) : Option (State × List Char) :=
  match s.brackets with
  | [] => s.item c rest
  | b :: outer =>
    if c = ']' ∧ ¬ (b.fresh ∧ b.items = []) then some (s.closeBracket b outer, rest)
    else (b.step s.manner outer c rest).map fun (brackets, rest) => ({ s with brackets }, rest)

/-- Reads a text in at most so many steps. -/
def run : Nat → State → List Char → Option State
  | 0, _, _ => none
  | fuel + 1, s, cs =>
    match s.manner.skip cs with
    | [] => some s
    | c :: rest => (s.step c rest).bind fun (s, rest) => run fuel s rest

def isComplete (s : State) : Bool := s.outer.isEmpty && s.brackets.isEmpty

end State

/-- The depth of a well-formed pattern. Each step reads a character at least. -/
def depth? (cs : List Char) : Option Nat :=
  ((State.start.run (cs.length + 1) cs).filter State.isComplete).map (·.level.depth)

def depthLimit : Nat := 250

def isValid (cs : List Char) : Bool := (depth? cs).any (· ≤ depthLimit)

end BeamRun.Logging.Pattern
