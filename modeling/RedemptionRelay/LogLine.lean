import RedemptionRelay.Json.Writer
import RedemptionRelay.Text.Timestamp
import RedemptionRelay.Text.Word

/-! # Log lines

One event of the journal is one JSON object on one line. Absent parts are left
out; the members of the attached data are in the order of their names.
-/

namespace RedemptionRelay

open Json (Value)

inductive LogLevel where
  | trace
  | debug
  | info
  | warn
  | error
deriving DecidableEq, Repr

namespace LogLevel

def text : LogLevel → String
  | .trace => "TRACE"
  | .debug => "DEBUG"
  | .info => "INFO"
  | .warn => "WARN"
  | .error => "ERROR"

def ofText (text : String) : LogLevel :=
  match Word.lower text with
  | "trace" => .trace
  | "debug" => .debug
  | "warn" | "warning" => .warn
  | "error" => .error
  | _ => .info

end LogLevel

inductive EventCategory where
  | intake
  | attestation
  | settlement
  | system
  | error
deriving DecidableEq, Repr

namespace EventCategory

def all : List EventCategory :=
  [.intake, .attestation, .settlement, .system, .error]

def text : EventCategory → String
  | .intake => "intake"
  | .attestation => "attestation"
  | .settlement => "settlement"
  | .system => "system"
  | .error => "error"

def ofText? (text : String) : Option EventCategory :=
  all.find? (·.text == text)

end EventCategory

structure ErrorDetails where
  code : String
  message : String
deriving DecidableEq, Repr

structure LogLine where
  timestamp : String
  level : String
  category : EventCategory
  message : String
  correlationId : Option String := none
  data : Option Value := none
  error : Option ErrorDetails := none

namespace LogLine

/-- A line that is begun at this moment, in nanoseconds since the start of 1970. -/
def begun (moment : Nat) (level : LogLevel) (category : EventCategory) (message : String) :
    LogLine where
  timestamp := Timestamp.text moment
  level := level.text
  category := category
  message := message

def optionalMember {α : Type} (name : String) (json : α → Value) : Option α → List (String × Value)
  | none => []
  | some value => [(name, json value)]

def json (line : LogLine) : Value :=
  .object (
    [("timestamp", .text line.timestamp),
      ("level", .text line.level),
      ("category", .text line.category.text),
      ("message", .text line.message)] ++
    optionalMember "correlation_id" .text line.correlationId ++
    optionalMember "data" id line.data ++
    optionalMember "error"
      (fun details =>
        .object [("code", .text details.code), ("message", .text details.message)])
      line.error)

def write (line : LogLine) : String :=
  line.json.write

end LogLine

end RedemptionRelay
