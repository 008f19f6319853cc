import FarmScript.Farm.Format
import FarmScript.Language.Command
import FarmScript.Language.Statement

/-! # The language as JSON

Commands are written by name. Conditions are tagged with their kind and carry their number or
truth value beside it; statements are tagged with their kind and carry their own fields.
-/

namespace FarmScript
set_option autoImplicit false

namespace Command

/-- A command as JSON. -/
def toJson (command : Command) : Json := Json.text command.name

/-- The command of a JSON value. -/
def ofJson? : Json → Option Command := Json.variant? name all

end Command

namespace Condition

/-- A condition as JSON. -/
def toJson : Condition → Json
  | literal value => Json.record [("kind", .text "literal"), ("value", .bool value)]
  | ripe => Json.record [("kind", .text "ripe")]
  | emptySoil => Json.record [("kind", .text "empty_soil")]
  | atColumn x => Json.record [("kind", .text "agent_x"), ("value", .ofInt64 x)]
  | atRow y => Json.record [("kind", .text "agent_y"), ("value", .ofInt64 y)]
  | unknown => Json.record [("kind", .text "unknown")]

/-- The condition of a JSON value. -/
def ofJson? (json : Json) : Option Condition := do
  let [kind, value] ← json.slots? ["kind", "value"] | none
  match ← kind.required? Json.variantName? with
  | "literal" => return literal (← value.required? Json.toBool?)
  | "ripe" => value.nothing?; return ripe
  | "empty_soil" => value.nothing?; return emptySoil
  | "agent_x" => return atColumn (← value.required? Json.toInt64?)
  | "agent_y" => return atRow (← value.required? Json.toInt64?)
  | "unknown" => value.nothing?; return unknown
  | _ => none

end Condition

namespace Statement

/-- A statement as JSON. -/
def toJson : Statement → Json
  | blank => Json.record [("kind", .text "blank")]
  | whileLoop condition =>
    Json.record [("kind", .text "while"), ("condition", condition.toJson)]
  | forLoop count => Json.record [("kind", .text "for"), ("count", .ofUInt32 count)]
  | ifThen condition => Json.record [("kind", .text "if"), ("condition", condition.toJson)]
  | elseThen => Json.record [("kind", .text "else")]
  | call word => Json.record [("kind", .text "call"), ("command", .text word)]
  | assignment => Json.record [("kind", .text "assignment")]
  | noOp => Json.record [("kind", .text "no_op")]

/-- The statement of a JSON value. -/
def ofJson? (json : Json) : Option Statement := do
  let (kind, fields) ← json.tagged? 0 "kind"
  match kind with
  | "blank" => let _ ← fields.slots? []; return blank
  | "while" =>
    let [condition] ← fields.slots? ["condition"] | none
    return whileLoop (← condition.required? Condition.ofJson?)
  | "for" =>
    let [count] ← fields.slots? ["count"] | none
    return forLoop (← count.required? Json.toUInt32?)
  | "if" =>
    let [condition] ← fields.slots? ["condition"] | none
    return ifThen (← condition.required? Condition.ofJson?)
  | "else" => let _ ← fields.slots? []; return elseThen
  | "call" =>
    let [word] ← fields.slots? ["command"] | none
    return call (← word.required? Json.toText?)
  | "assignment" => let _ ← fields.slots? []; return assignment
  | "no_op" => let _ ← fields.slots? []; return noOp
  | _ => none

end Statement

end FarmScript
