import FarmScript.Farm.World
import FarmScript.Text.Blank
import FarmScript.Text.Numeral
import FarmScript.Text.Search

/-! # Conditions

What a `while` or `if` header asks about. A condition is recognised by the words it contains, the
two literals apart: a sensor call anywhere in the text decides it, then a coordinate of the bot
with a number after the first `==`. A text without any of these is unknown, and never holds.
-/

namespace FarmScript
set_option autoImplicit false

/-- A question about the farm. -/
inductive Condition where
  | literal (value : Bool)
  /-- The tile under the bot is ripe. -/
  | ripe
  /-- The tile under the bot is bare soil. -/
  | emptySoil
  /-- The bot stands in a column. -/
  | atColumn (x : Int64)
  /-- The bot stands in a row. -/
  | atRow (y : Int64)
  | unknown
deriving DecidableEq

namespace Condition

/-- An optional sign and the digits after it, as far as they go. -/
def signedRun : List Char → List Char
  | '-' :: text => '-' :: text.takeWhile Text.isDigit
  | '+' :: text => '+' :: text.takeWhile Text.isDigit
  | text => text.takeWhile Text.isDigit

/-- The number that follows the first `==`. What comes after its digits is not looked at. -/
def comparedValue? (text : List Char) : Option Int64 := do
  let right ← Text.after? "==".toList text
  let value ← Text.integer? (signedRun (Text.trimStart right))
  Text.signed64? value

/-- The condition that a text spells. -/
def ofChars (text : List Char) : Condition :=
  let text := Text.trim text
  let mentions (word : String) : Bool := Text.contains word.toList text
  if text = "True".toList then literal true
  else if text = "False".toList then literal false
  else if mentions "check_ripe()" then ripe
  else if mentions "check_soil()" then emptySoil
  else if mentions "bot.x" || mentions "agent.x" then
    ((comparedValue? text).map atColumn).getD unknown
  else if mentions "bot.y" || mentions "agent.y" then
    ((comparedValue? text).map atRow).getD unknown
  else unknown

/-- The condition that a text spells. -/
def parse (text : String) : Condition := ofChars text.toList

/-- Whether a condition holds on a farm. -/
def holds (world : World) : Condition → Bool
  | literal value => value
  | ripe => world.cropUnderBot? = some .ripe
  | emptySoil => world.cropUnderBot? = some .empty
  | atColumn x => world.bot.column = x
  | atRow y => world.bot.row = y
  | unknown => false

end Condition

end FarmScript
