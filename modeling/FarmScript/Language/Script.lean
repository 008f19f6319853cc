import FarmScript.Fault
import FarmScript.Language.Statement

/-! # Scripts

A script is its lines. Nesting is by indentation alone: the block that a header opens goes up to
the next line, comments and empty lines apart, that is not indented deeper than the header.
-/

namespace FarmScript
set_option autoImplicit false

/-- The lines of a program. -/
structure Script where
  lines : Array String
deriving DecidableEq

namespace Script

/-- The most lines that a script file may have. -/
def maxLines : Nat := 10000

/-- The spaces that a tab stands for. -/
def tab : List Char := List.replicate 4 ' '

/-- A line as it is kept: without one carriage return at its end, and with its tabs as spaces. -/
def normalizeLine (line : List Char) : List Char :=
  let line := if line.getLast? = some '\r' then line.dropLast else line
  line.flatMap fun c => if c = '\t' then tab else [c]

/-- The script of a source text. -/
def parse (source : String) : Script where
  lines := ((Text.splitLines source.toList).map
    fun line => String.ofList (normalizeLine line)).toArray

/-- The number of lines. -/
def length (script : Script) : Nat := script.lines.size

/-- The text of a line; lines are counted from 0. -/
def line? (script : Script) (i : Nat) : Option String := script.lines[i]?

/-- The number of blanks that a line starts with. -/
def indentOf (line : String) : Nat := Text.indentation line.toList

/-- Whether a line is empty or a comment. -/
def isSkippable (line : String) : Bool := Statement.isSkippable line.toList

/-- Whether a line ends the block of a header that is indented by `indent`. -/
def endsBlock (indent : Nat) (line : String) : Bool :=
  !isSkippable line && indentOf line ≤ indent

/-- The first line after the block of the header in line `header`, which is indented by `indent`:
the first line further down that ends the block, or the end of the script. -/
def blockEnd (script : Script) (header indent : Nat) : Nat :=
  match (script.lines.toList.drop (header + 1)).findIdx? (endsBlock indent) with
  | some i => header + 1 + i
  | none => script.length

/-- The fault of a script that has too many lines. -/
def tooLarge (lines max : Nat) : Fault :=
  ((Fault.of .scriptTooLarge
    ("script has " ++ Text.numeral lines ++ " lines, at most " ++ Text.numeral max
      ++ " are allowed")).withContext "lines" (Text.numeral lines)).withContext
    "max" (Text.numeral max)

end Script

end FarmScript
