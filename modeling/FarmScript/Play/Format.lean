import FarmScript.Farm.Format
import FarmScript.Play.Session

/-! # Sessions as JSON

The weight of a message, the end of a run and the steps of a trace.
-/

namespace FarmScript
set_option autoImplicit false

namespace LogLevel

/-- The name of a weight. -/
def name : LogLevel → String
  | info => "info"
  | error => "error"

/-- A weight as JSON. -/
def toJson (level : LogLevel) : Json := Json.text level.name

/-- The weight of a JSON value. -/
def ofJson? : Json → Option LogLevel := Json.variant? name [info, error]

end LogLevel

namespace Outcome

/-- The end of a run as JSON. -/
def toJson : Outcome → Json
  | goalReached ticks =>
    Json.record [("outcome", .text "goal_reached"), ("ticks", .nat ticks)]
  | exhausted ticks => Json.record [("outcome", .text "exhausted"), ("ticks", .nat ticks)]
  | halted line message =>
    Json.record [("outcome", .text "halted"), ("line", .nat line), ("message", .text message)]
  | tickLimit ticks => Json.record [("outcome", .text "tick_limit"), ("ticks", .nat ticks)]

/-- The number of ticks among the fields of a JSON value. -/
def ticksField? (fields : Json) : Option Nat := do
  let [ticks] ← fields.slots? ["ticks"] | none
  ticks.required? Json.toCount?

/-- The end of a run that a JSON value stands for. -/
def ofJson? (json : Json) : Option Outcome := do
  let (kind, fields) ← json.tagged? 0 "outcome"
  match kind with
  | "goal_reached" => return goalReached (← ticksField? fields)
  | "exhausted" => return exhausted (← ticksField? fields)
  | "halted" =>
    let [line, message] ← fields.slots? ["line", "message"] | none
    return halted (← line.required? Json.toCount?) (← message.required? Json.toText?)
  | "tick_limit" => return tickLimit (← ticksField? fields)
  | _ => none

end Outcome

namespace TraceStep

/-- A step of a trace as JSON. -/
def toJson (step : TraceStep) : Json :=
  Json.record [("tick", .nat step.tick), ("line", .nat step.line),
    ("source", .text step.source), ("log", .optionalText step.log),
    ("error", .optionalText step.error)]

/-- The step of a trace that a JSON value stands for. -/
def ofJson? (json : Json) : Option TraceStep := do
  let [tick, line, source, log, error] ←
    json.slots? ["tick", "line", "source", "log", "error"] | none
  return {
    tick := ← tick.required? Json.toCount?
    line := ← line.required? Json.toCount?
    source := ← source.required? Json.toText?
    log := ← log.optional? Json.toText?
    error := ← error.optional? Json.toText? }

end TraceStep

end FarmScript
