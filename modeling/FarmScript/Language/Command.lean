import FarmScript.Farm.Rules
import FarmScript.Text.Numeral

/-! # Commands

What the bot can be told to do. Carrying out a command gives the farm afterwards and a `Reply`
that says what happened: done, nothing to do, or refused. Only a reply of the first sort comes
with a changed farm.
-/

namespace FarmScript
set_option autoImplicit false

/-- An order to the bot. -/
inductive Command where
  | forward
  | left
  | right
  | plant
  | water
  | harvest
  | pass
deriving DecidableEq

namespace Command

/-- The name of a command. -/
def name : Command → String
  | forward => "forward"
  | left => "left"
  | right => "right"
  | plant => "plant"
  | water => "water"
  | harvest => "harvest"
  | pass => "pass"

/-- All commands. -/
def all : List Command := [forward, left, right, plant, water, harvest, pass]

/-- The command of a word: its name, or one of three short forms. -/
def ofWord? (word : String) : Option Command :=
  if word = "fd" then some forward
  else if word = "lt" then some left
  else if word = "rt" then some right
  else all.find? (·.name = word)

/-- Every command is the command of its name. -/
@[simp] theorem ofWord?_name (command : Command) : ofWord? command.name = some command := by
  cases command <;> decide

/-- What came of a command. -/
inductive Reply where
  | turnedLeft
  | turnedRight
  | moved (x y : Int64)
  | sown (cost : UInt32)
  | watered (cost : UInt32)
  | harvested (value : UInt32)
  /-- Nothing was asked for. -/
  | idle
  /-- The soil is in use already. -/
  | soilTaken
  | nothingRipe
  /-- The field ends here. -/
  | wall
  /-- The bot stands beside the field. -/
  | offFarm
  /-- The gold does not reach for the cost. -/
  | tooPoor (cost : UInt32)
deriving DecidableEq

namespace Reply

/-- The gold part of a message. -/
def amount (n : UInt32) : String := Text.numeral n.toNat ++ " G"

/-- The message of a command that was carried out or had nothing to do. -/
def log? : Reply → Option String
  | turnedLeft => some "left(): turned left"
  | turnedRight => some "right(): turned right"
  | moved x y =>
    some ("forward(): moved to (" ++ Text.signedNumeral x.toInt ++ ", "
      ++ Text.signedNumeral y.toInt ++ ")")
  | sown cost => some ("plant(): seeds sown (-" ++ amount cost ++ ")")
  | watered cost => some ("water(): watered (-" ++ amount cost ++ ")")
  | harvested value => some ("harvest(): harvested (+" ++ amount value ++ ")")
  | soilTaken => some "Cannot plant here (soil is not empty)"
  | nothingRipe => some "Nothing ripe to harvest"
  | idle | wall | offFarm | tooPoor _ => none

/-- The message of a command that was refused. -/
def error? : Reply → Option String
  | wall => some "Hit the wall! (Out of bounds)"
  | offFarm => some "The bot is not on the farm"
  | tooPoor cost => some ("Not enough gold (need " ++ amount cost ++ ")")
  | turnedLeft | turnedRight | moved _ _ | sown _ | watered _ | harvested _ | idle | soilTaken
  | nothingRipe => none

/-- Whether the command was carried out. -/
def changed : Reply → Bool
  | turnedLeft | turnedRight | moved _ _ | sown _ | watered _ | harvested _ => true
  | idle | soilTaken | nothingRipe | wall | offFarm | tooPoor _ => false

/-- A reply is a log message or an error, never both. -/
theorem log?_eq_none_or_error?_eq_none (reply : Reply) :
    reply.log? = none ∨ reply.error? = none := by
  cases reply <;> simp [log?, error?]

end Reply

/-! ## Carrying out -/

/-- The bot goes one step ahead unless the field ends there. -/
def goForward (world : World) : World × Reply :=
  let (x, y) := world.bot.ahead
  if world.grid.contains x y then
    ({ world with bot := { world.bot with x := x.toUInt64, y := y.toUInt64 } }, .moved x y)
  else (world, .wall)

/-- The bot looks another way. -/
def turn (heading : Heading) (world : World) : World :=
  { world with bot := { world.bot with heading := heading } }

/-- The bot sows the soil under it: the soil must be bare and the gold must suffice. -/
def sow (rules : Rules) (world : World) : World × Reply :=
  match world.cropUnderBot? with
  | none => (world, .offFarm)
  | some crop =>
    if crop ≠ .empty then (world, .soilTaken)
    else if world.gold < rules.plantCost then (world, .tooPoor rules.plantCost)
    else
      ({ world.modifyUnderBot (·.setCrop .planted) with gold := world.gold - rules.plantCost },
        .sown rules.plantCost)

/-- The bot waters the tile under it, whatever stands there; its growth starts anew. The gold is
looked at before the position. -/
def irrigate (rules : Rules) (world : World) : World × Reply :=
  if world.gold < rules.waterCost then (world, .tooPoor rules.waterCost)
  else match world.cropUnderBot? with
  | none => (world, .offFarm)
  | some _ =>
    ({ world.modifyUnderBot (fun tile => { tile with crop := .watered, growth := 0 }) with
        gold := world.gold - rules.waterCost },
      .watered rules.waterCost)

/-- The bot harvests the tile under it if it is ripe. -/
def reap (rules : Rules) (world : World) : World × Reply :=
  match world.cropUnderBot? with
  | none => (world, .offFarm)
  | some crop =>
    if crop ≠ .ripe then (world, .nothingRipe)
    else
      ({ world.modifyUnderBot (·.setCrop .empty) with
          gold := saturatingAdd world.gold rules.harvestValue
          bot := { world.bot with inventory := saturatingAdd world.bot.inventory 1 } },
        .harvested rules.harvestValue)

/-- The farm after a command, and what came of it. -/
def execute (rules : Rules) (world : World) : Command → World × Reply
  | forward => goForward world
  | left => (turn world.bot.heading.turnLeft world, .turnedLeft)
  | right => (turn world.bot.heading.turnRight world, .turnedRight)
  | plant => sow rules world
  | water => irrigate rules world
  | harvest => reap rules world
  | pass => (world, .idle)

/-- A command that was not carried out leaves the farm as it was. -/
theorem execute_eq_of_not_changed (rules : Rules) (world : World) (command : Command)
    (h : (execute rules world command).2.changed = false) :
    (execute rules world command).1 = world := by
  cases command <;>
    simp only [execute, goForward, sow, irrigate, reap, Reply.changed] at h ⊢ <;>
    grind [Reply.changed]

end Command

end FarmScript
