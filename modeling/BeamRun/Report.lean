import BeamRun.Event
import BeamRun.Json.Record
import BeamRun.Json.Value
import BeamRun.Report.Identifier
import BeamRun.Report.Timestamp
import BeamRun.Violation

namespace BeamRun.Report

structure Context where
  requestId : Option String
  submittedBy : Option String
  additional : TextMap String

namespace Context

def empty : Context := ⟨none, none, .empty⟩

def isEmpty (c : Context) : Bool :=
  c.requestId.isNone && c.submittedBy.isNone && c.additional.isEmpty

def add (c : Context) (key value : String) : Context :=
  { c with additional := c.additional.insert key value }

def toJson (c : Context) : Json :=
  let additional := c.additional.entries.map fun e => (e.1, Json.string e.2)
  .object
    (c.requestId.toList.map (fun s => ("requestId", .string s)) ++
      c.submittedBy.toList.map (fun s => ("submittedBy", .string s)) ++
      (if c.additional.isEmpty then [] else [("additional", .object additional)]))

structure Draft where
  requestId : Option (Option String)
  submittedBy : Option (Option String)
  additional : Option (TextMap String)

def Draft.blank : Draft := ⟨none, none, none⟩

def Draft.finish (d : Draft) : Except Json.Fault Context :=
  match d.additional with
  | some additional => .ok ⟨d.requestId.join, d.submittedBy.join, additional⟩
  | none => .error (.missingField "additional")

open Json.Reader in
def slots : List (Slot Draft) :=
  [{ name := "requestId"
     filled := (·.requestId.isSome)
     read := do
      let s ← optional plainString
      pure fun d => { d with requestId := some s } },
    { name := "submittedBy"
      filled := (·.submittedBy.isSome)
      read := do
      let s ← optional plainString
      pure fun d => { d with submittedBy := some s } },
    { name := "additional"
      filled := (·.additional.isSome)
      read := do
      let m ← mapOf plainString
      pure fun d => { d with additional := some m } }]

def reader : Json.Reader Context :=
  Json.Reader.record "struct ErrorContext" slots .blank Draft.finish fun count d =>
    if count = slots.length then d.finish
    else .error (.invalidLength count "struct ErrorContext with 3 elements")

def parse (text : String) : Except Json.ReadError Context := reader.run text

end Context
end BeamRun.Report

/-! Reports: a batch of errors with an identity, a time and the context of the request. -/

namespace BeamRun

/-- What tells one report from another. -/
structure Report.Stamp where
  id : Report.Identifier
  time : Report.Timestamp
  deriving DecidableEq, Repr

structure Report (α : Type) where
  stamp : Report.Stamp
  context : Report.Context
  errors : List α

namespace Report

variable {α : Type}

def toJson (encode : α → Json) (r : Report α) : Json :=
  .object
    [("reportId", .string r.stamp.id.text), ("timestamp", .string r.stamp.time.text),
      ("context", r.context.toJson), ("errors", .array (r.errors.map encode))]

def formed {β ε : Type} (expected : String) (parse : String → Except ε β) (message : ε → String) :
    Json.Reader β := do
  let s ← Json.Reader.stringAs expected
  Json.Reader.orFail ((parse s).mapError fun e => .invalidContent (message e))

def identifier : Json.Reader Identifier :=
  formed "a formatted UUID string" Identifier.parse fun e => "UUID parsing failed: " ++ e.message

def timestamp : Json.Reader Timestamp :=
  formed "an RFC 3339 formatted date and time string" Timestamp.parse (·.message)

structure Draft (α : Type) where
  id : Option Identifier
  time : Option Timestamp
  context : Option Context
  errors : Option (List α)

def Draft.blank : Draft α := ⟨none, none, none, none⟩

def Draft.finish (d : Draft α) : Except Json.Fault (Report α) :=
  match d.id, d.time, d.context, d.errors with
  | some id, some time, some context, some errors => .ok ⟨⟨id, time⟩, context, errors⟩
  | none, _, _, _ => .error (.missingField "reportId")
  | _, none, _, _ => .error (.missingField "timestamp")
  | _, _, none, _ => .error (.missingField "context")
  | _, _, _, none => .error (.missingField "errors")

open Json.Reader in
def slots (item : Json.Reader α) : List (Slot (Draft α)) :=
  [{ name := "reportId"
     filled := (·.id.isSome)
     read := do
      let id ← identifier
      pure fun d => { d with id := some id } },
    { name := "timestamp"
      filled := (·.time.isSome)
      read := do
      let time ← timestamp
      pure fun d => { d with time := some time } },
    { name := "context"
      filled := (·.context.isSome)
      read := do
      let context ← Context.reader
      pure fun d => { d with context := some context } },
    { name := "errors"
      filled := (·.errors.isSome)
      read := do
      let errors ← listOf item
      pure fun d => { d with errors := some errors } }]

def reader (item : Json.Reader α) : Json.Reader (Report α) :=
  Json.Reader.record "struct ErrorReport" (slots item) .blank Draft.finish fun count d =>
    if count = (slots item).length then d.finish
    else .error (.invalidLength count "struct ErrorReport with 4 elements")

/-- Reads a report over arbitrary values, which stand two brackets deep. -/
def parse (text : String) : Except Json.ReadError (Report Json) :=
  (reader (Json.Reader.value (Json.depthLimit - 2))).run text

def event (encode : α → Json) (r : Report α) : Event :=
  ⟨.warn, .reporting, "Error report emitted",
    [("report_id", .text r.stamp.id.text),
      ("request_id", .text (r.context.requestId.getD "-")),
      ("submitted_by", .text (r.context.submittedBy.getD "-")),
      ("error_count", .count r.errors.length),
      ("errors", .text (Json.array (r.errors.map encode)).text)]⟩

end Report
end BeamRun
