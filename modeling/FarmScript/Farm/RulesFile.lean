import FarmScript.Farm.Format
import FarmScript.Farm.Rules
import FarmScript.File
import FarmScript.Json.Reader
import FarmScript.Json.Writer

/-! # Rules as text

Rules are kept as a JSON text. Fields that the text leaves out have their default; rules that were
read are always playable.
-/

namespace FarmScript.Rules
set_option autoImplicit false

/-- The names of the fields, in their order. -/
def fieldNames : List String :=
  ["grid_size", "growth_step", "harvest_value", "plant_cost", "water_cost", "starting_gold",
    "max_logs", "tick_interval_ms"]

/-- Rules as JSON. -/
def toJson (rules : Rules) : Json :=
  Json.record [("grid_size", .ofUInt64 rules.gridSize), ("growth_step", .ofUInt32 rules.growthStep),
    ("harvest_value", .ofUInt32 rules.harvestValue), ("plant_cost", .ofUInt32 rules.plantCost),
    ("water_cost", .ofUInt32 rules.waterCost), ("starting_gold", .ofUInt32 rules.startingGold),
    ("max_logs", .ofUInt64 rules.maxLogs), ("tick_interval_ms", .ofUInt64 rules.tickIntervalMs)]

/-- The rules of a JSON value, which need not be playable. -/
def ofJson? (json : Json) : Option Rules := do
  let [size, growth, harvest, plant, water, gold, logs, interval] ← json.slots? fieldNames | none
  return {
    gridSize := ← size.withDefault? default.gridSize Json.toUInt64?
    growthStep := ← growth.withDefault? default.growthStep Json.toUInt32?
    harvestValue := ← harvest.withDefault? default.harvestValue Json.toUInt32?
    plantCost := ← plant.withDefault? default.plantCost Json.toUInt32?
    waterCost := ← water.withDefault? default.waterCost Json.toUInt32?
    startingGold := ← gold.withDefault? default.startingGold Json.toUInt32?
    maxLogs := ← logs.withDefault? default.maxLogs Json.toUInt64?
    tickIntervalMs := ← interval.withDefault? default.tickIntervalMs Json.toUInt64? }

/-- The text of rules. -/
def write (rules : Rules) : String := rules.toJson.writePretty

/-- The fault of a text that holds no rules. -/
def unreadable (detail : String) : Fault :=
  ((Fault.of .serializationFailed ("invalid config: " ++ detail)).withOperation
    "config::from_json").withSource detail

/-- The playable rules of a text. -/
def parse (text : String) : Except Fault Rules :=
  match Json.read? text with
  | none => .error (unreadable "the text is not one JSON value")
  | some json =>
    match ofJson? json with
    | none => .error (unreadable "the value does not have the fields of a game")
    | some rules => rules.validate

/-- The playable rules of a file, given what reading it came to. -/
def load (path : String) (content : Except File.Failure String) : Except Fault Rules :=
  match content with
  | .error failure => .error (failure.faultAt "config::from_file" path)
  | .ok text => (parse text).mapError (·.withContext "path" path)

end FarmScript.Rules
