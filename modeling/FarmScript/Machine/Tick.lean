import FarmScript.Language.Command
import FarmScript.Language.Script
import FarmScript.Machine.Block

/-! # Ticks

A script runs in ticks. A `Program` is how far it has come: the line that is next and the blocks
that are open. One tick lets the field grow and then deals with one line: it skips the line, goes
back to the start of a loop that the line closes, enters or skips the block that the line opens,
or carries out what the line says. Past the last line a tick closes the blocks that are still
open; when none is, the script is exhausted and further ticks only let the field grow.
-/

namespace FarmScript
set_option autoImplicit false

/-- How far a script has come. -/
structure Program where
  /-- The line that is next. -/
  cursor : Nat
  /-- The blocks that are open there. -/
  nesting : Nesting
deriving DecidableEq

namespace Program

/-- A program before its first line. -/
def start : Program where
  cursor := 0
  nesting := []

/-- Whether a script has no line left to run and no block left to close. -/
def isExhausted (script : Script) (program : Program) : Bool :=
  script.length ≤ program.cursor && program.nesting.isEmpty

/-- The program one line on. -/
def advance (program : Program) : Program := { program with cursor := program.cursor + 1 }

/-- The program inside the block that the next line opens. -/
def enter (kind : Block.Kind) (indent : Nat) (program : Program) : Program where
  cursor := program.cursor + 1
  nesting := Nesting.push ⟨kind, program.cursor, indent⟩ program.nesting

/-- The program behind the block that the next line opens. -/
def skip (script : Script) (indent : Nat) (program : Program) : Program :=
  { program with cursor := script.blockEnd program.cursor indent }

end Program

/-- Whether a script goes on. -/
inductive TickStatus where
  | running
  | exhausted
deriving DecidableEq

/-- The state after a tick and what the tick reports. -/
structure Tick where
  world : World
  program : Program
  log : Option String
  error : Option String
  status : TickStatus
deriving DecidableEq

namespace Tick

/-- A tick that only moves the program. -/
def moveTo (world : World) (program : Program) : Tick where
  world := world
  program := program
  log := none
  error := none
  status := .running

/-- The message of an assignment. -/
def assignmentText : String := "Variable assignment is not supported yet"

/-- Carries out the next line, which is indented by `indent` and closes no block. -/
def dispatch (rules : Rules) (script : Script) (indent : Nat) (world : World)
    (program : Program) : Statement → Tick
  | .whileLoop condition =>
    moveTo world <|
      if condition.holds world then program.enter .whileLoop indent else program.skip script indent
  | .forLoop count => moveTo world (program.enter (.forLoop 0 count) indent)
  | .ifThen condition =>
    moveTo world <|
      if condition.holds world then program.enter .ifThen indent else program.skip script indent
  | .elseThen => moveTo world (program.enter .elseThen indent)
  | .call word =>
    match Command.ofWord? word with
    | none => moveTo world program.advance
    | some command =>
      let (world, reply) := command.execute rules world
      { moveTo world program.advance with log := reply.log?, error := reply.error? }
  | .assignment => { moveTo world program.advance with log := some assignmentText }
  | .blank | .noOp => moveTo world program.advance

/-- A tick past the last line, which closes blocks like a line that is not indented. -/
def atEnd (world : World) (program : Program) : Tick :=
  if program.nesting.isEmpty then { moveTo world program with status := .exhausted }
  else match program.nesting.close 0 with
  | .loopedBack cursor nesting => moveTo world ⟨cursor, nesting⟩
  | .fellThrough nesting => moveTo world { program with nesting := nesting }

/-- A tick at a line. -/
def atLine (rules : Rules) (script : Script) (line : String) (world : World)
    (program : Program) : Tick :=
  if Script.isSkippable line then moveTo world program.advance
  else
    let indent := Script.indentOf line
    match program.nesting.close indent with
    | .loopedBack cursor nesting => moveTo world ⟨cursor, nesting⟩
    | .fellThrough nesting =>
      dispatch rules script indent world { program with nesting := nesting }
        (Statement.classify line)

end Tick

/-- One tick of a script: the field grows, then the next line is dealt with. -/
def tick (rules : Rules) (script : Script) (world : World) (program : Program) : Tick :=
  let grown := world.grow rules.growthStep
  match script.line? program.cursor with
  | none => Tick.atEnd grown program
  | some line => Tick.atLine rules script line grown program

/-- The first ticks of a script, each starting from the farm and the program that the one before
left. -/
def ticks (rules : Rules) (script : Script) : Nat → World → Program → List Tick
  | 0, _, _ => []
  | n + 1, world, program =>
    let t := tick rules script world program
    t :: ticks rules script n t.world t.program

end FarmScript
