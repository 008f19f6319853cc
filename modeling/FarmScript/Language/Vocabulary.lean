import FarmScript.Farm.Rules
import FarmScript.Json.Writer

/-! # The vocabulary

All that can be written in a script, for a player to look up: as a text (`Vocabulary.reference`)
and as JSON (`Vocabulary.json`).
-/

namespace FarmScript.Vocabulary
set_option autoImplicit false

/-- Something that can be written in a script. -/
structure Entry where
  form : String
  /-- Other ways to write it. -/
  aliases : List String
  description : String
deriving DecidableEq

/-- The commands. -/
def commands : List Entry :=
  [⟨"forward()", ["fd()"], "Move one cell in the facing direction"⟩,
    ⟨"left()", ["lt()"], "Turn 90 degrees to the left"⟩,
    ⟨"right()", ["rt()"], "Turn 90 degrees to the right"⟩,
    ⟨"plant()", [], "Sow seeds on empty soil (costs gold)"⟩,
    ⟨"water()", [], "Water the tile so the crop grows (costs gold)"⟩,
    ⟨"harvest()", [], "Collect a ripe crop (earns gold)"⟩,
    ⟨"pass()", [], "Do nothing for one step"⟩]

/-- The conditions. -/
def sensors : List Entry :=
  [⟨"True", [], "Always true"⟩,
    ⟨"False", [], "Always false"⟩,
    ⟨"check_ripe()", [], "The tile under the bot is ripe"⟩,
    ⟨"check_soil()", [], "The tile under the bot is empty soil"⟩,
    ⟨"bot.x == N", ["agent.x == N"], "The bot's column equals N"⟩,
    ⟨"bot.y == N", ["agent.y == N"], "The bot's row equals N"⟩]

/-- The headers. -/
def blocks : List Entry :=
  [⟨"for i in range(N):", [], "Repeat the indented block N times"⟩,
    ⟨"while <condition>:", [], "Repeat the indented block while the condition holds"⟩,
    ⟨"if <condition>:", [], "Run the indented block once if the condition holds"⟩,
    ⟨"else:", [], "Run the indented block when reached"⟩]

/-- An entry as one item of a list. -/
def Entry.item (entry : Entry) : String :=
  "- `" ++ entry.form ++ "`"
    ++ (if entry.aliases.isEmpty then ""
        else " (or `" ++ String.intercalate "`, `" entry.aliases ++ "`)")
    ++ ": " ++ entry.description ++ "\n"

/-- A heading and the entries below it. -/
def part (title : String) (entries : List Entry) : String :=
  "## " ++ title ++ "\n\n" ++ String.join (entries.map Entry.item) ++ "\n"

/-- The vocabulary as a text, with the numbers of a game. -/
def reference (rules : Rules) : String :=
  let size := Text.numeral rules.gridSize.toNat
  "# Code Farm Script Reference\n\n"
    ++ part "Commands" commands
    ++ part "Conditions" sensors
    ++ part "Blocks" blocks
    ++ "## Farm\n\n"
    ++ "- The grid is " ++ size ++ "x" ++ size ++ "; (0,0) is the top-left corner\n"
    ++ "- plant() costs " ++ Text.numeral rules.plantCost.toNat
    ++ " G, water() costs " ++ Text.numeral rules.waterCost.toNat
    ++ " G, harvest() earns " ++ Text.numeral rules.harvestValue.toNat ++ " G\n"
    ++ "- Indent blocks with 4 spaces (a tab counts as 4)\n"
    ++ "- There are no variables, no arithmetic and no and/or/not\n"

/-- An entry as JSON. -/
def Entry.toJson (entry : Entry) : Json :=
  Json.record [("aliases", .array (entry.aliases.map Json.text)),
    ("description", .text entry.description), ("syntax", .text entry.form)]

/-- The vocabulary as JSON; keys are in alphabetical order. -/
def json : Json :=
  Json.record [("blocks", .array (blocks.map Entry.toJson)),
    ("commands", .array (commands.map Entry.toJson)),
    ("sensors", .array (sensors.map Entry.toJson))]

end FarmScript.Vocabulary
