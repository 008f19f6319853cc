import FarmScript.Farm.Grid

/-! # The farm

The state a script acts on: the field, the bot that works on it and the gold it has.
-/

namespace FarmScript
set_option autoImplicit false

/-- The way the bot looks; rows are counted downwards. -/
inductive Heading where
  | up
  | down
  | left
  | right
deriving DecidableEq

namespace Heading

/-- The name under which a heading is written down. -/
def name : Heading → String
  | up => "UP"
  | down => "DOWN"
  | left => "LEFT"
  | right => "RIGHT"

/-- All headings. -/
def all : List Heading := [up, down, left, right]

/-- The heading after a quarter turn to the left. -/
def turnLeft : Heading → Heading
  | up => left
  | left => down
  | down => right
  | right => up

/-- The heading after a quarter turn to the right. -/
def turnRight : Heading → Heading
  | up => right
  | right => down
  | down => left
  | left => up

/-- The change of column and row of one step ahead. -/
def delta : Heading → Int64 × Int64
  | up => (0, -1)
  | down => (0, 1)
  | left => (-1, 0)
  | right => (1, 0)

@[simp] theorem turnRight_turnLeft (h : Heading) : h.turnLeft.turnRight = h := by
  cases h <;> rfl

@[simp] theorem turnLeft_turnRight (h : Heading) : h.turnRight.turnLeft = h := by
  cases h <;> rfl

end Heading

/-- The bot: where it stands, where it looks and how many crops it has harvested. -/
structure Bot where
  x : UInt64
  y : UInt64
  heading : Heading
  inventory : UInt32
deriving DecidableEq

namespace Bot

/-- A new bot stands in the top left corner and looks along the first row. -/
def spawn : Bot where
  x := 0
  y := 0
  heading := .right
  inventory := 0

/-- The column of the bot as a signed word. -/
def column (bot : Bot) : Int64 := bot.x.toInt64

/-- The row of the bot as a signed word. -/
def row (bot : Bot) : Int64 := bot.y.toInt64

/-- The position one step ahead, which need not be on the field. -/
def ahead (bot : Bot) : Int64 × Int64 :=
  (bot.column + bot.heading.delta.1, bot.row + bot.heading.delta.2)

end Bot

/-- The field, the bot and its gold. -/
structure World where
  grid : Grid
  bot : Bot
  gold : UInt32
deriving DecidableEq

namespace World

/-- A field of bare soil with a new bot. -/
def start (size : UInt64) (gold : UInt32) : World where
  grid := Grid.bare size
  bot := Bot.spawn
  gold := gold

/-- The tile the bot stands on, if it is on the field. -/
def tileUnderBot? (world : World) : Option Tile := world.grid.get? world.bot.x world.bot.y

/-- The crop the bot stands on, if it is on the field. -/
def cropUnderBot? (world : World) : Option Crop := world.tileUnderBot?.map (·.crop)

/-- The world with `change` applied to the tile under the bot. -/
def modifyUnderBot (world : World) (change : Tile → Tile) : World :=
  { world with grid := world.grid.modify world.bot.x world.bot.y change }

/-- The world after the field has grown by `step`. -/
def grow (step : UInt32) (world : World) : World := { world with grid := world.grid.grow step }

@[simp] theorem bot_grow (step : UInt32) (world : World) : (world.grow step).bot = world.bot := rfl

@[simp] theorem gold_grow (step : UInt32) (world : World) : (world.grow step).gold = world.gold :=
  rfl

end World

end FarmScript
