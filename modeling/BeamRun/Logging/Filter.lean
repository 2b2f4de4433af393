import BeamRun.Decimal
import BeamRun.Event
import BeamRun.Logging.Condition
import BeamRun.Text

namespace BeamRun.Logging

inductive Level where
  | off
  | error
  | warn
  | info
  | debug
  | trace
  deriving DecidableEq, Repr

namespace Level

def all : List Level := [off, error, warn, info, debug, trace]

def name : Level → String
  | off => "off"
  | error => "error"
  | warn => "warn"
  | info => "info"
  | debug => "debug"
  | trace => "trace"

def allows (l : Level) (s : Severity) : Bool := s.rank ≤ all.idxOf l

/-- A level by its place among all, in digits that may follow a plus sign. -/
def ofDigits? (cs : List Char) : Option Level :=
  let ds := if cs.head? = some '+' then cs.drop 1 else cs
  if ds.isEmpty || !ds.all Char.isDigit then none else all[Decimal.value ds]?

/-- A number, a name in any case, or nothing for the level of errors. -/
def parse? (s : String) : Option Level :=
  let cs := s.toList
  if cs.isEmpty then some error
  else (ofDigits? cs).or (all.find? fun l => l.name.toList = cs.map Char.toLower)

end Level

/-! Directives: a level for those parts of the log that fit a description. -/

structure Directive where
  /-- How the target starts. -/
  target : Option String
  span : Option String
  condition : Option Condition
  level : Level
  deriving DecidableEq, Repr

namespace Directive

def ofLevel (level : Level) : Directive := ⟨none, none, none, level⟩

def isOfSpans (d : Directive) : Bool := d.span.isSome || d.condition.isSome

/-- Whether it can be told of an event by its target and the names of its fields. -/
def isOfEvents (d : Directive) : Bool := d.span.isNone && (d.condition.bind (·.value)).isNone

def conditionText (d : Directive) : String :=
  match d.condition with
  | some c => "\x7b" ++ c.text ++ "\x7d"
  | none => ""

def description (d : Directive) : String :=
  d.target.getD "" ++ (if d.isOfSpans then "[" ++ d.span.getD "" ++ d.conditionText ++ "]" else "")

def text (d : Directive) : String :=
  if d.target.isSome || d.isOfSpans then d.description ++ "=" ++ d.level.name else d.level.name

/-- Grows with how much a directive says about what it is for; equal means for the same. -/
def order (a b : Directive) : Ordering :=
  (optionOrder ascending (a.target.map (·.utf8ByteSize)) (b.target.map (·.utf8ByteSize))).then <|
    (ascending a.span.isSome.toNat b.span.isSome.toNat).then <|
      (ascending a.condition.isSome.toNat b.condition.isSome.toNat).then <|
        (optionOrder ascending a.target b.target).then <|
          (optionOrder ascending a.span b.span).then <|
            optionOrder Condition.order a.condition b.condition

/-- A message is a field as well. -/
def hasField (e : Event) (name : String) : Bool := name = "message" || e.details.any (·.1 = name)

def covers (d : Directive) (e : Event) : Bool :=
  (d.target.all fun t => t.toList.isPrefixOf e.speaker.target.toList) &&
    d.condition.all fun c => hasField e c.field

/-- How far the text of a directive has been read, with the byte positions at which parts begin. -/
inductive Stage where
  | start
  | head
  | span (first : Nat)
  | condition (first : Nat)
  | described
  | closed
  | level (first : Nat)
  deriving DecidableEq, Repr

structure Reading where
  stage : Stage
  position : Nat
  target : Option String
  span : Option String
  condition : Option Condition

namespace Reading

def cut (whole : List Char) (first last : Nat) : List Char :=
  Text.firstBytes (last - first) (Text.afterBytes first whole)

def startsTarget (c : Char) : Bool := c = '-' || c = ':' || c = '_' || Text.isAlphanumeric c

/-- Reads one character more; parts are cut out of the whole text. -/
def step (whole : List Char) (r : Reading) (c : Char) : Option Reading :=
  let next := r.position + c.utf8Size
  let moved (stage : Stage) : Reading := { r with stage, position := next }
  let part (first : Nat) : List Char := cut whole first r.position
  match r.stage with
  | .start =>
    if c = '[' then some (moved (.span next))
    else if startsTarget c then some (moved .head)
    else none
  | .head =>
    if c = '=' then some { moved (.level next) with target := some (String.ofList (part 0)) }
    else if c = '[' then some { moved (.span next) with target := some (String.ofList (part 0)) }
    else some (moved .head)
  | .span first =>
    if c = ']' then some { moved .closed with span := some (String.ofList (part first)) }
    else if c = '\x7b' then
      let name := part first
      let span := if name.isEmpty then none else some (String.ofList name)
      some { moved (.condition next) with span }
    else some (moved (.span first))
  | .condition first =>
    if c = '\x7d' then
      (Condition.parse? (part first)).map fun c => { moved .described with condition := some c }
    else some (moved (.condition first))
  | .described => if c = ']' then some (moved .closed) else none
  | .closed => if c = '=' then some (moved (.level next)) else none
  | .level first => some (moved (.level first))

def finish (whole : List Char) (r : Reading) : Option Directive :=
  match r.stage with
  | .head =>
    let text := String.ofList whole
    match Level.parse? text with
    | some level => some (ofLevel level)
    | none => some ⟨some text, none, none, .trace⟩
  | .closed => some ⟨r.target, r.span, r.condition, .trace⟩
  | .level first =>
    let text := Text.afterBytes first whole
    let level := if text.isEmpty then some .trace else Level.parse? (String.ofList text)
    level.map fun level => ⟨r.target, r.span, r.condition, level⟩
  | _ => none

end Reading

/-- A level, a description, or both with an equals sign between them; without a level all is let through.
Positions are those in the text without blanks around it, so blanks before it shift every part. -/
def parse? (whole : List Char) : Option Directive :=
  ((Text.trim whole).foldlM (Reading.step whole) ⟨.start, 0, none, none, none⟩).bind
    (Reading.finish whole)

end Directive

/-! Filters: which events get into the log, by level and by the part of the program that speaks. -/

/-- Directives in the order in which they are looked at, the more specific ones first. -/
structure Filter where
  events : List Directive
  spans : List Directive
  deriving DecidableEq, Repr

namespace Filter

/-- Puts a directive in its place; one for the same is replaced. -/
def insert (d : Directive) : List Directive → List Directive
  | [] => [d]
  | e :: rest =>
    match d.order e with
    | .gt => d :: e :: rest
    | .eq => d :: rest
    | .lt => e :: insert d rest

def arranged (ds : List Directive) : List Directive := ds.foldl (fun ordered d => insert d ordered) []

/-- A directive for spans also counts for events if it can be told of them. -/
def ofDirectives (ds : List Directive) : Filter :=
  let (spans, others) := ds.partition (·.isOfSpans)
  ⟨arranged (others ++ spans.filter (·.isOfEvents)), arranged spans⟩

def ofLevel (level : Level) : Filter := ofDirectives [.ofLevel level]

def text (f : Filter) : String := ",".intercalate ((f.events ++ f.spans).map Directive.text)

/-- The first directive that covers an event decides. No span is ever open here. -/
def enables (f : Filter) (e : Event) : Bool :=
  (f.events.find? (·.covers e)).any fun d => d.level.allows e.severity

/-- Directives between commas, all of them valid; without any nothing gets into the log. -/
def parse? (s : String) : Option Filter :=
  (((Text.split ',' s.toList).filter (!·.isEmpty)).mapM Directive.parse?).map ofDirectives

end Filter
end BeamRun.Logging
