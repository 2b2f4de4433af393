import BeamRun.Failure
import BeamRun.Json.Record
import BeamRun.Json.Value
import BeamRun.Logging.Filter
import BeamRun.Report.Timestamp

/-! How a program logs: the level it asks for, and the form of the lines. -/

namespace BeamRun.Logging

inductive Fault where
  | invalidLevel (level : String)
  | notInstalled (reason : String)
  deriving DecidableEq, Repr

namespace Fault

def message : Fault → String
  | invalidLevel level => "Invalid log level: " ++ level
  | notInstalled reason => "Tracing initialization failed: " ++ reason

def failure (f : Fault) : Failure := ⟨.configuration, f.message⟩

end Fault

structure Config where
  level : String
  json : Bool
  showTarget : Bool
  deriving DecidableEq, Repr

namespace Config

def default : Config := ⟨"info", false, false⟩

def toJson (c : Config) : Json :=
  .object
    [("log_level", .string c.level), ("json", .bool c.json), ("show_target", .bool c.showTarget)]

structure Draft where
  level : Option String
  json : Option Bool
  showTarget : Option Bool

def Draft.finish (d : Draft) : Config :=
  ⟨d.level.getD default.level, d.json.getD default.json, d.showTarget.getD default.showTarget⟩

open Json.Reader in
def slots : List (Slot Draft) :=
  [{ name := "log_level"
     filled := (·.level.isSome)
     read := do
      let s ← plainString
      pure fun d => { d with level := some s } },
    { name := "json"
      filled := (·.json.isSome)
      read := do
      let b ← boolean
      pure fun d => { d with json := some b } },
    { name := "show_target"
      filled := (·.showTarget.isSome)
      read := do
      let b ← boolean
      pure fun d => { d with showTarget := some b } }]

def reader : Json.Reader Config :=
  Json.Reader.record "struct LoggerConfig" slots ⟨none, none, none⟩
    (fun d => .ok d.finish) (fun _ d => .ok d.finish)

def parse (text : String) : Except Json.ReadError Config := reader.run text

def levelFilter (c : Config) : Except Fault Level :=
  (Level.parse? c.level).elim (.error (.invalidLevel c.level)) .ok

/-- The environment's filter if there is a valid one, otherwise that of the level. -/
def filter (c : Config) (requested : Option String) : Except Fault Filter :=
  match requested.bind Filter.parse? with
  | some f => .ok f
  | none => c.levelFilter.map .ofLevel

/-- A program logs in one way only: after the first time nothing more is installed. -/
def install (c : Config) (requested : Option String) (installed : Bool) : Except Fault Filter := do
  let f ← c.filter requested
  if installed then throw (.notInstalled "a global default trace dispatcher has already been set")
  pure f

def initialized (c : Config) : Event :=
  ⟨.debug, .logging, "Logging initialized", [("level", .text c.level), ("json", .flag c.json)]⟩

end Config

def detailJson : Detail → Json
  | .text s => .string s
  | .count n => .ofCount (UInt64.ofNat n)
  | .flag b => .bool b

def detailText : Detail → String
  | .text s => s
  | .count n => toString n
  | .flag b => toString b

/-- An event as an object; the target is shown on demand. -/
def lineJson (showTarget : Bool) (time : String) (e : Event) : Json :=
  let fields := e.details.map fun d => (d.1, detailJson d.2)
  .object
    ([("timestamp", .string time), ("level", .string e.severity.name),
      ("fields", .object (("message", .string e.message) :: fields))] ++
      (if showTarget then [("target", .string e.speaker.target)] else []))

def plainLine (showTarget : Bool) (time : String) (e : Event) : String :=
  let target := if showTarget then e.speaker.target ++ ": " else ""
  let level := String.ofList (e.severity.name.toList.leftpad 5 ' ')
  time ++ " " ++ level ++ " " ++ target ++ e.message ++
    String.join (e.details.map fun d => " " ++ d.1 ++ "=" ++ detailText d.2)

def line (c : Config) (time : Report.Timestamp) (e : Event) : String :=
  if c.json then (lineJson c.showTarget time.offsetText e).text
  else plainLine c.showTarget time.offsetText e

end BeamRun.Logging
