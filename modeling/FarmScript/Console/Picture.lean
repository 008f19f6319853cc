import FarmScript.Farm.World
import FarmScript.Text.Numeral

/-! # The farm as a picture

One line of characters for each row of the field. The bot is drawn as an arrow over the tile it
stands on; the gold and the harvest stand beside the first two rows.
-/

namespace FarmScript
set_option autoImplicit false

/-- The arrow of a heading. -/
def Heading.glyph : Heading → Char
  | up => '^'
  | down => 'v'
  | left => '<'
  | right => '>'

/-- The mark of a crop. -/
def Crop.glyph : Crop → Char
  | empty => '.'
  | planted => ','
  | watered => '~'
  | ripe => '*'

namespace World

/-- The character of a tile. -/
def glyph (world : World) (tile : Tile) : Char :=
  if tile.x = world.bot.x ∧ tile.y = world.bot.y then world.bot.heading.glyph else tile.crop.glyph

/-- What stands beside the row of a number. -/
def note (world : World) : Nat → String
  | 0 => "   gold: " ++ Text.numeral world.gold.toNat ++ " G"
  | 1 => "   harvested: " ++ Text.numeral world.bot.inventory.toNat
  | _ => ""

/-- The line of a row. -/
def pictureLine (world : World) (row : List Tile) (y : Nat) : String :=
  String.ofList (row.map world.glyph) ++ world.note y ++ "\n"

/-- The picture of a farm. -/
def picture (world : World) : String :=
  String.join (world.grid.rows.mapIdx fun y row => world.pictureLine row y)

end World

end FarmScript
