import BeamRun.Report
import BeamRun.Text

namespace BeamRun.Listing

def escapeCode : String := (Char.ofNat 0x1b).toString

def reset : String := escapeCode ++ "[0m"

inductive Style where
  | good
  | bad
  | name
  deriving DecidableEq, Repr

def Style.start : Style → String
  | good => escapeCode ++ "[1;32m"
  | bad => escapeCode ++ "[1;31m"
  | name => escapeCode ++ "[33m"

/-- A reset inside of the text does not end the style. -/
def painted (colored : Bool) (style : Style) (text : String) : String :=
  if colored then
    let inside := Text.behindMarks reset.toList style.start.toList 0 text.toList
    style.start ++ String.ofList inside ++ reset
  else text

/-- Whether to paint: variables may force it or forbid it, otherwise only a terminal is painted. -/
def wantsColor (environment : List (String × String)) (terminal : Bool) : Bool :=
  if (environment.lookup "CLICOLOR_FORCE").any (· ≠ "0") then true
  else if (environment.lookup "NO_COLOR").isSome then false
  else terminal && (environment.lookup "CLICOLOR").all (· ≠ "0")

def nameWidth : Nat := 34

def padded (name : String) : String := String.ofList (name.toList.rightpad nameWidth ' ')

def acceptedHeadline (colored : Bool) : String :=
  painted colored .good "Simulation options accepted" ++ "\n"

def option (o : Options) (f : Field) : String :=
  "  " ++ padded f.name ++ " " ++ (o.valueOf f).text ++ "\n"

def options (colored : Bool) (o : Options) : String :=
  acceptedHeadline colored ++ String.join (Field.all.map (option o))

def violation (colored : Bool) (v : Violation) : String :=
  let related := (v.related.map fun field => " (see " ++ field ++ ")").getD ""
  "  " ++ painted colored .name v.field ++ " [" ++ v.kind.code ++ "] " ++ v.message ++ related ++ "\n"

def headline (colored : Bool) (r : Report Violation) : String :=
  painted colored .bad "Simulation options rejected" ++ " (" ++ toString r.errors.length ++
    (if r.errors.length = 1 then " error" else " errors") ++ ", report " ++ r.stamp.id.text ++ ")\n"

def rejection (colored : Bool) (r : Report Violation) : String :=
  headline colored r ++ String.join (r.errors.map (violation colored))

end BeamRun.Listing
