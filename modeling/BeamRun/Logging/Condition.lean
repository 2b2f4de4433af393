import BeamRun.Decimal
import BeamRun.Logging.Pattern
import BeamRun.Text

namespace BeamRun.Logging

def ascending {α : Type} [LT α] [DecidableLT α] [DecidableEq α] (a b : α) : Ordering :=
  compareOfLessAndEq a b

def optionOrder {α : Type} (order : α → α → Ordering) : Option α → Option α → Ordering
  | none, none => .eq
  | none, some _ => .lt
  | some _, none => .gt
  | some a, some b => order a b

inductive Expected where
  | flag (b : Bool)
  | real (x : Binary64)
  | notANumber
  | negative (n : Nat)
  | whole (n : Nat)
  | pattern (text : String)
  deriving DecidableEq, Repr

namespace Expected

def text : Expected → String
  | flag b => toString b
  | real x => Decimal.plainText x
  | notANumber => "NaN"
  | negative n => String.ofList (Decimal.ofInt (-n))
  | whole n => String.ofList (Decimal.digits n)
  | pattern text => text

def digits? (bound : Nat) (cs : List Char) : Option Nat :=
  let n := Decimal.value cs
  if !cs.isEmpty && cs.all Char.isDigit && n < bound then some n else none

def whole? (cs : List Char) : Option Expected :=
  (digits? (1 <<< 64) (if cs.head? = some '+' then cs.drop 1 else cs)).map whole

def negative? (cs : List Char) : Option Expected :=
  if cs.head? = some '-' then (digits? ((1 <<< 63) + 1) (cs.drop 1)).map negative else none

def real? (cs : List Char) : Option Expected :=
  (Decimal.ofText? cs).map fun x => if x.isNaN then notANumber else real x

def pattern? (cs : List Char) : Option Expected :=
  if Pattern.isValid cs then some (pattern (String.ofList cs)) else none

def parse? (cs : List Char) : Option Expected :=
  if cs = "true".toList then some (flag true)
  else if cs = "false".toList then some (flag false)
  else (((whole? cs).or (negative? cs)).or (real? cs)).or (pattern? cs)

/-- The place of a kind of value among all kinds. -/
def rank : Expected → Nat
  | flag _ => 0
  | real _ => 1
  | notANumber => 2
  | whole _ => 3
  | negative _ => 4
  | pattern _ => 5

def order : Expected → Expected → Ordering
  | flag a, flag b => ascending a.toNat b.toNat
  | real x, real y => ascending x.position y.position
  | negative m, negative n => ascending n m
  | whole m, whole n => ascending m n
  | pattern s, pattern t => ascending s t
  | a, b => ascending a.rank b.rank

end Expected

structure Condition where
  field : String
  value : Option Expected
  deriving DecidableEq, Repr

namespace Condition

def text (c : Condition) : String :=
  match c.value with
  | some value => c.field ++ "=" ++ value.text
  | none => c.field

/-- The name of a field, which a value may follow behind an equals sign. -/
def parse? (cs : List Char) : Option Condition :=
  match Text.split '=' cs with
  | name :: value :: _ => (Expected.parse? value).map fun v => ⟨String.ofList name, some v⟩
  | name :: [] => if name.isEmpty then none else some ⟨String.ofList name, none⟩
  | [] => none

/-- Conditions on values come after all others. -/
def order (a b : Condition) : Ordering :=
  (ascending a.value.isSome.toNat b.value.isSome.toNat).then <|
    (ascending a.field b.field).then <|
      optionOrder Expected.order a.value b.value

end Condition
end BeamRun.Logging
