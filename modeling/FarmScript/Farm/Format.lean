import FarmScript.Farm.World
import FarmScript.Json.Record

/-! # The farm as JSON

For each type of the farm a value of it as JSON (`toJson`) and the value that a JSON value stands
for (`ofJson?`).
-/

namespace FarmScript
set_option autoImplicit false

/-- A 32-bit word as JSON. -/
def Json.ofUInt32 (value : UInt32) : Json := Json.nat value.toNat

/-- A 64-bit word as JSON. -/
def Json.ofUInt64 (value : UInt64) : Json := Json.nat value.toNat

/-- A signed 64-bit word as JSON. -/
def Json.ofInt64 (value : Int64) : Json := Json.int value.toInt

namespace Crop

/-- A crop as JSON. -/
def toJson (crop : Crop) : Json := Json.text crop.name

/-- The crop of a JSON value. -/
def ofJson? : Json → Option Crop := Json.variant? name all

end Crop

namespace Heading

/-- A heading as JSON. -/
def toJson (heading : Heading) : Json := Json.text heading.name

/-- The heading of a JSON value. -/
def ofJson? : Json → Option Heading := Json.variant? name all

end Heading

namespace Tile

/-- A tile as JSON. -/
def toJson (tile : Tile) : Json :=
  Json.record [("x", .ofUInt64 tile.x), ("y", .ofUInt64 tile.y), ("state", tile.crop.toJson),
    ("growth", .ofUInt32 tile.growth)]

/-- The tile of a JSON value. -/
def ofJson? (json : Json) : Option Tile := do
  let [x, y, crop, growth] ← json.slots? ["x", "y", "state", "growth"] | none
  return {
    x := ← x.required? Json.toUInt64?
    y := ← y.required? Json.toUInt64?
    crop := ← crop.required? Crop.ofJson?
    growth := ← growth.required? Json.toUInt32? }

end Tile

namespace Grid

/-- A field as JSON. -/
def toJson (grid : Grid) : Json :=
  Json.record [("size", .ofUInt64 grid.size),
    ("tiles", .array (grid.tiles.toList.map Tile.toJson))]

/-- The field of a JSON value. Its tiles need not be those of a square. -/
def ofJson? (json : Json) : Option Grid := do
  let [size, tiles] ← json.slots? ["size", "tiles"] | none
  return {
    size := ← size.required? Json.toUInt64?
    tiles := (← tiles.required? (Json.toList? Tile.ofJson?)).toArray }

end Grid

namespace Bot

/-- A bot as JSON. -/
def toJson (bot : Bot) : Json :=
  Json.record [("x", .ofUInt64 bot.x), ("y", .ofUInt64 bot.y), ("facing", bot.heading.toJson),
    ("inventory", .ofUInt32 bot.inventory)]

/-- The bot of a JSON value. -/
def ofJson? (json : Json) : Option Bot := do
  let [x, y, heading, inventory] ← json.slots? ["x", "y", "facing", "inventory"] | none
  return {
    x := ← x.required? Json.toUInt64?
    y := ← y.required? Json.toUInt64?
    heading := ← heading.required? Heading.ofJson?
    inventory := ← inventory.required? Json.toUInt32? }

end Bot

namespace World

/-- A farm as JSON. -/
def toJson (world : World) : Json :=
  Json.record [("grid", world.grid.toJson), ("agent", world.bot.toJson),
    ("gold", .ofUInt32 world.gold)]

/-- The farm of a JSON value. -/
def ofJson? (json : Json) : Option World := do
  let [grid, bot, gold] ← json.slots? ["grid", "agent", "gold"] | none
  return {
    grid := ← grid.required? Grid.ofJson?
    bot := ← bot.required? Bot.ofJson?
    gold := ← gold.required? Json.toUInt32? }

end World

end FarmScript
