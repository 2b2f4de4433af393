namespace BeamRun

inductive Severity where
  | error
  | warn
  | info
  | debug
  | trace
  deriving DecidableEq, Repr

namespace Severity

def name : Severity → String
  | error => "ERROR"
  | warn => "WARN"
  | info => "INFO"
  | debug => "DEBUG"
  | trace => "TRACE"

/-- Grows with the amount of detail. -/
def rank : Severity → Nat
  | error => 1
  | warn => 2
  | info => 3
  | debug => 4
  | trace => 5

end Severity

inductive Speaker where
  | providers
  | settings
  | validation
  | cards
  | reporting
  | failures
  | commands
  | logging
  deriving DecidableEq, Repr

def Speaker.target : Speaker → String
  | providers => "options_engine::providers"
  | settings => "options_engine::settings"
  | validation => "options_engine::validation"
  | cards => "beam_cards"
  | reporting => "error_common::reporting"
  | failures => "error_common::types"
  | commands => "ops_cli::commands"
  | logging => "telemetry::logging"

inductive Detail where
  | text (s : String)
  | count (n : Nat)
  | flag (b : Bool)
  deriving DecidableEq, Repr

structure Event where
  severity : Severity
  speaker : Speaker
  message : String
  details : List (String × Detail)
  deriving DecidableEq, Repr

/-- A result and the events on the way to it, in order. -/
structure Logged (α : Type) where
  events : List Event
  result : α

namespace Logged

variable {α β : Type}

protected def pure (a : α) : Logged α := ⟨[], a⟩

protected def bind (x : Logged α) (f : α → Logged β) : Logged β :=
  let y := f x.result
  ⟨x.events ++ y.events, y.result⟩

instance : Monad Logged where
  pure := Logged.pure
  bind := Logged.bind

def tell (e : Event) : Logged Unit := ⟨[e], ()⟩

def tellAll (es : List Event) : Logged Unit := ⟨es, ()⟩

@[simp] theorem events_pure (a : α) : (pure a : Logged α).events = [] := rfl

@[simp] theorem result_pure (a : α) : (pure a : Logged α).result = a := rfl

@[simp] theorem events_bind (x : Logged α) (f : α → Logged β) :
    (x >>= f).events = x.events ++ (f x.result).events := rfl

@[simp] theorem result_bind (x : Logged α) (f : α → Logged β) :
    (x >>= f).result = (f x.result).result := rfl

theorem result_foldlM (f : β → α → Logged β) (b : β) (as : List α) :
    (as.foldlM f b).result = as.foldl (fun b a => (f b a).result) b := by
  induction as generalizing b with
  | nil => rfl
  | cons a as ih => exact ih (f b a).result

end Logged
end BeamRun
