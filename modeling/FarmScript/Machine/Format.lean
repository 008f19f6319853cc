import FarmScript.Farm.Format
import FarmScript.Machine.Tick

/-! # Running programs as JSON

Open blocks are written outermost first.
-/

namespace FarmScript
set_option autoImplicit false

namespace Block

/-- A block as JSON. -/
def toJson (block : Block) : Json :=
  Json.record <|
    [("kind", .text block.kind.name), ("line", .nat block.line),
      ("indent", .nat block.indent)]
    ++ match block.kind with
      | .forLoop iteration target =>
        [("iteration", .ofUInt32 iteration), ("target", .ofUInt32 target)]
      | .whileLoop | .ifThen | .elseThen => []

/-- The block of a kind whose line and indentation are the fields of a JSON value. -/
def ofFields? (kind : Kind) (fields : Json) : Option Block := do
  let [line, indent] ← fields.slots? ["line", "indent"] | none
  return ⟨kind, ← line.required? Json.toCount?, ← indent.required? Json.toCount?⟩

/-- The block of a JSON value that stands inside `depth` arrays and objects. -/
def ofJson? (depth : Nat) (json : Json) : Option Block := do
  let (kind, fields) ← json.tagged? depth "kind"
  match kind with
  | "for" =>
    let [line, indent, iteration, target] ←
      fields.slots? ["line", "indent", "iteration", "target"] | none
    return {
      kind := .forLoop (← iteration.required? Json.toUInt32?) (← target.required? Json.toUInt32?)
      line := ← line.required? Json.toCount?
      indent := ← indent.required? Json.toCount? }
  | "while" => ofFields? .whileLoop fields
  | "if" => ofFields? .ifThen fields
  | "else" => ofFields? .elseThen fields
  | _ => none

end Block

namespace Nesting

/-- Open blocks as JSON. -/
def toJson (nesting : Nesting) : Json :=
  Json.record [("frames", .array (nesting.reverse.map Block.toJson))]

/-- The open blocks of a JSON value that stands inside `depth` arrays and objects. -/
def ofJson? (depth : Nat) (json : Json) : Option Nesting := do
  let [blocks] ← json.slots? ["frames"] | none
  return (← blocks.required? (Json.toList? (Block.ofJson? (depth + 2)))).reverse

end Nesting

namespace Program

/-- A program as JSON. -/
def toJson (program : Program) : Json :=
  Json.record [("cursor", .nat program.cursor), ("stack", program.nesting.toJson)]

/-- The program of a JSON value. -/
def ofJson? (json : Json) : Option Program := do
  let [cursor, nesting] ← json.slots? ["cursor", "stack"] | none
  return {
    cursor := ← cursor.required? Json.toCount?
    nesting := ← nesting.required? (Nesting.ofJson? 1) }

end Program

namespace TickStatus

/-- The name of a status. -/
def name : TickStatus → String
  | running => "running"
  | exhausted => "exhausted"

/-- A status as JSON. -/
def toJson (status : TickStatus) : Json := Json.text status.name

/-- The status of a JSON value. -/
def ofJson? : Json → Option TickStatus := Json.variant? name [running, exhausted]

end TickStatus

end FarmScript
