import FarmScript.Farm.Rules
import FarmScript.Text.Numeral

/-! # Levels

A level is a task on a field of its own: the texts that present it, the crops that are ripe from
the start, and the goal that ends it.
-/

namespace FarmScript
set_option autoImplicit false

/-- What a level asks for. -/
inductive Goal where
  /-- The bot stands at a position, and seeds are sown there. -/
  | plantAt (x y : UInt64)
  /-- The first `count` tiles of the first row are in use. -/
  | fillFirstRow (count : Nat)
  /-- The gold has reached what the start and `count` harvests come to. -/
  | earnHarvests (count : Nat)
deriving DecidableEq

/-- Whether a goal is reached on a farm. -/
def Goal.isReached (rules : Rules) (world : World) : Goal → Bool
  | plantAt x y =>
    world.bot.x = x && world.bot.y = y && world.grid.crop? x y = some .planted
  | fillFirstRow count =>
    (List.range count).all fun x =>
      match world.grid.crop? (UInt64.ofNat x) 0 with
      | some crop => crop ≠ .empty
      | none => false
  | earnHarvests count =>
    rules.startingGold.toNat + count * rules.harvestValue.toNat ≤ world.gold.toNat

/-- A task of the game. -/
structure Level where
  id : UInt32
  title : String
  description : String
  /-- The goal in words. -/
  goalText : String
  /-- The code a player starts from. -/
  starterCode : String
  /-- The commands and headers that the level is about. -/
  commands : List String
  /-- Where crops are ripe from the start. -/
  ripeAtStart : List (UInt64 × UInt64)
  goal : Goal
deriving DecidableEq

namespace Level

/-- The first level: single steps. -/
def firstSteps : Level where
  id := 1
  title := "Chapter 1: First Steps"
  description := "Welcome to programming. Even the most complex automation starts with "
    ++ "one instruction at a time. Drive the bot with turtle-style commands."
  goalText := "Move to (3, 3) and plant a seed"
  starterCode := "# Level 1: sequential execution\n"
    ++ "# Task: move to (3,3) and plant a seed\n"
    ++ "# Hint: forward() moves ahead, left() turns left\n"
    ++ "\n"
    ++ "forward()\n"
    ++ "forward()\n"
    ++ "forward()\n"
    ++ "left()\n"
    ++ "# keep writing your code here...\n"
  commands := ["forward()", "left()", "right()", "plant()"]
  ripeAtStart := []
  goal := .plantAt 3 3

/-- The second level: loops. -/
def powerOfLoops : Level where
  id := 2
  title := "Chapter 2: The Power of Loops"
  description := "Repeated code is a programmer's enemy. Use a 'for' loop to make the "
    ++ "bot repeat an action."
  goalText := "Plant 5 tiles in a row on the first row (y = 0)"
  starterCode := "# Level 2: loops\n"
    ++ "# Task: plant 5 times along the first row\n"
    ++ "# Python uses indentation (a tab or 4 spaces) to mark a block\n"
    ++ "\n"
    ++ "for i in range(5):\n"
    ++ "    plant()\n"
    ++ "    forward()\n"
    ++ "\n"
    ++ "# code after the loop\n"
    ++ "right()\n"
  commands := ["for i in range(n):", "forward()", "plant()"]
  ripeAtStart := []
  goal := .fillFirstRow 5

/-- The third level: loops without end, and conditions. -/
def foreverAndIf : Level where
  id := 3
  title := "Chapter 3: Forever and If"
  description := "Use a 'while' loop to keep working and 'if' to react to the field."
  goalText := "Harvest the 3 ripe crops scattered on the map"
  starterCode := "# Level 3: conditions\n"
    ++ "# Task: patrol the field and harvest ripe carrots\n"
    ++ "# Hint: keep moving, harvest whenever something is ripe\n"
    ++ "\n"
    ++ "while True:\n"
    ++ "    forward()\n"
    ++ "\n"
    ++ "    # edge check: turn right at the border\n"
    ++ "    if bot.x == 5:\n"
    ++ "        right()\n"
    ++ "\n"
    ++ "    if check_ripe():\n"
    ++ "        harvest()\n"
  commands := ["while True:", "if check_ripe():", "harvest()", "forward()"]
  ripeAtStart := [(1, 1), (3, 3), (1, 4)]
  goal := .earnHarvests 3

/-- All levels, in the order in which they are played. -/
def all : List Level := [firstSteps, powerOfLoops, foreverAndIf]

/-- The fault of a level that does not exist. -/
def notFound (id : UInt32) : Fault :=
  (Fault.of .levelNotFound ("level " ++ Text.numeral id.toNat ++ " does not exist")).withContext
    "level" (Text.numeral id.toNat)

/-- The level of a number. -/
def find (id : UInt32) : Except Fault Level :=
  match all.find? (·.id = id) with
  | some level => .ok level
  | none => .error ((notFound id).withOperation "level::by_id")

/-- The level that follows the level of a number. -/
def next? (id : UInt32) : Option Level :=
  (all.findIdx? (·.id = id)).bind fun i => all[i + 1]?

/-- Whether a level sets up its field. -/
def hasSetup (level : Level) : Bool := !level.ripeAtStart.isEmpty

/-- The field at the start of a level. -/
def grid (level : Level) (rules : Rules) : Grid :=
  level.ripeAtStart.foldl (fun grid (x, y) => grid.setCrop x y .ripe) (Grid.bare rules.gridSize)

/-- The farm at the start of a level. -/
def world (level : Level) (rules : Rules) : World :=
  { rules.freshWorld with grid := level.grid rules }

/-- The level in one line, for a reader who does not see it. -/
def context (level : Level) : String :=
  level.title ++ " - " ++ level.description ++ " Goal: " ++ level.goalText

end Level

end FarmScript
