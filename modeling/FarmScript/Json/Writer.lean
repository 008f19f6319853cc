import FarmScript.Json.Value
import FarmScript.Text.Numeral

/-! # Writing JSON

`Json.write` gives the compact text of a value, `Json.writePretty` the text on several lines with
an indentation of two. In a string a quote, a backslash and the control characters below the space
are escaped, and nothing else is.
-/

namespace FarmScript.Json
set_option autoImplicit false

/-- A character as it stands in a string literal. -/
def escape (c : Char) : List Char :=
  if c = '"' then ['\\', '"']
  else if c = '\\' then ['\\', '\\']
  else if c = '\x08' then ['\\', 'b']
  else if c = '\x0c' then ['\\', 'f']
  else if c = '\n' then ['\\', 'n']
  else if c = '\r' then ['\\', 'r']
  else if c = '\t' then ['\\', 't']
  else if c.toNat < 0x20 then
    ['\\', 'u', '0', '0', Nat.digitChar (c.toNat / 16), Nat.digitChar (c.toNat % 16)]
  else [c]

/-- The literal of a string. A string that stands for no text is written as the surrogate that
makes it so. -/
def writeText : Option String → List Char
  | some text => '"' :: (text.toList.flatMap escape ++ ['"'])
  | none => "\"\\ud800\"".toList

/-- The literal of a number with a fraction: digits, a point and at least one more digit. -/
def writeDecimal (value : Decimal) : List Char :=
  let sign := if value.negative then ['-'] else []
  let digits := Text.decimal value.digits
  match value.scale with
  | .ofNat zeros => sign ++ digits ++ List.replicate zeros '0' ++ ['.', '0']
  | .negSucc n =>
    let padded := List.replicate (n + 2 - digits.length) '0' ++ digits
    sign ++ padded.take (padded.length - (n + 1)) ++ '.' :: padded.drop (padded.length - (n + 1))

/-- The literal of a number. -/
def writeNumber : Number → List Char
  | .integer value => Text.signedDecimal value
  | .decimal value => writeDecimal value

/-- The literal of a truth value. -/
def writeBool : Bool → List Char
  | true => "true".toList
  | false => "false".toList

/-! ## Compact text -/

mutual

/-- The compact text of a value. -/
def writeChars : Json → List Char
  | .null => "null".toList
  | .bool value => writeBool value
  | .number value => writeNumber value
  | .string text => writeText text
  | .array items => '[' :: (writeItems items ++ [']'])
  | .object members => '\x7b' :: (writeMembers members ++ ['\x7d'])

/-- Values with commas between them. -/
def writeItems : List Json → List Char
  | [] => []
  | [item] => writeChars item
  | item :: rest => writeChars item ++ ',' :: writeItems rest

/-- Members with commas between them. -/
def writeMembers : List (Option String × Json) → List Char
  | [] => []
  | [(key, value)] => writeText key ++ ':' :: writeChars value
  | (key, value) :: rest => writeText key ++ ':' :: (writeChars value ++ ',' :: writeMembers rest)

end

/-- The compact text of a value. -/
def write (value : Json) : String := String.ofList (writeChars value)

/-! ## Text on several lines -/

/-- A line break and the indentation of a depth. -/
def lineBreak (depth : Nat) : List Char := '\n' :: List.replicate (2 * depth) ' '

mutual

/-- The text of a value on several lines, the inner lines being `depth` levels deep. -/
def prettyChars (depth : Nat) : Json → List Char
  | .null => "null".toList
  | .bool value => writeBool value
  | .number value => writeNumber value
  | .string text => writeText text
  | .array [] => "[]".toList
  | .array (item :: rest) =>
    '[' :: (lineBreak depth ++ prettyItems depth (item :: rest) ++ lineBreak (depth - 1) ++ [']'])
  | .object [] => "\x7b\x7d".toList
  | .object (member :: rest) =>
    '\x7b' :: (lineBreak depth ++ prettyMembers depth (member :: rest) ++ lineBreak (depth - 1)
      ++ ['\x7d'])

/-- Values, each on lines of its own. -/
def prettyItems (depth : Nat) : List Json → List Char
  | [] => []
  | [item] => prettyChars (depth + 1) item
  | item :: rest =>
    prettyChars (depth + 1) item ++ ',' :: (lineBreak depth ++ prettyItems depth rest)

/-- Members, each on lines of its own. -/
def prettyMembers (depth : Nat) : List (Option String × Json) → List Char
  | [] => []
  | [(key, value)] => writeText key ++ ": ".toList ++ prettyChars (depth + 1) value
  | (key, value) :: rest =>
    writeText key ++ ": ".toList ++ prettyChars (depth + 1) value
      ++ ',' :: (lineBreak depth ++ prettyMembers depth rest)

end

/-- The text of a value on several lines. -/
def writePretty (value : Json) : String := String.ofList (prettyChars 1 value)

end FarmScript.Json
