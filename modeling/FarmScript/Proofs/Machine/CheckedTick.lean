import FarmScript.Proofs.Farm.CheckedWork
import FarmScript.Proofs.Machine.Enclosure

/-! # Ticks in checked arithmetic

`Checked.tick` is a tick whose sums are true ones: it counts lines, passes and ripe tiles without a
bound, and has no result when one of them is too large for its word or when the work on the field
has none. On a farm in order, in a program whose open blocks are those around its next line, it is
the tick itself (`Checked.tick_eq`), since headers stand above the next line, the next line stands
in the script, and a loop that goes back has not made all its passes.
-/

namespace FarmScript
set_option autoImplicit false

namespace Checked

/-- The line after a line. -/
def nextLine (i : Nat) : Option Nat := if i + 1 < UInt64.size then some (i + 1) else none

def close (indent : Nat) : Nesting → Option Nesting.Closing
  | [] => some (.fellThrough [])
  | block :: outer =>
    if block.isClosedBy indent then
      match block.kind with
      | .whileLoop => some (.loopedBack block.line outer)
      | .forLoop iteration target =>
        if saturatingAdd iteration 1 < target then do
          let iteration ← Text.word32? (iteration.toNat + 1)
          let body ← nextLine block.line
          return .loopedBack body ({ block with kind := .forLoop iteration target } :: outer)
        else close indent outer
      | .ifThen | .elseThen => close indent outer
    else some (.fellThrough (block :: outer))

def blockEnd (script : Script) (header indent : Nat) : Option Nat := do
  let first ← nextLine header
  match (script.lines.toList.drop first).findIdx? (Script.endsBlock indent) with
  | some i => if first + i < UInt64.size then some (first + i) else none
  | none => some script.length

def advance (program : Program) : Option Program := do
  let cursor ← nextLine program.cursor
  return { program with cursor := cursor }

def enter (kind : Block.Kind) (indent : Nat) (program : Program) : Option Program := do
  let cursor ← nextLine program.cursor
  return ⟨cursor, Nesting.push ⟨kind, program.cursor, indent⟩ program.nesting⟩

def skip (script : Script) (indent : Nat) (program : Program) : Option Program := do
  let cursor ← blockEnd script program.cursor indent
  return { program with cursor := cursor }

/-- Enters the block of a header if its condition holds, and skips it if not. -/
def branch (script : Script) (indent : Nat) (world : World) (program : Program)
    (kind : Block.Kind) (condition : Condition) : Option Program := do
  if ← holds world condition then enter kind indent program else skip script indent program

def dispatch (rules : Rules) (script : Script) (indent : Nat) (world : World)
    (program : Program) : Statement → Option Tick
  | .whileLoop condition => do
    let next ← branch script indent world program .whileLoop condition
    return Tick.moveTo world next
  | .forLoop count => do
    let next ← enter (.forLoop 0 count) indent program
    return Tick.moveTo world next
  | .ifThen condition => do
    let next ← branch script indent world program .ifThen condition
    return Tick.moveTo world next
  | .elseThen => do
    let next ← enter .elseThen indent program
    return Tick.moveTo world next
  | .call word =>
    match Command.ofWord? word with
    | none => do
      let next ← advance program
      return Tick.moveTo world next
    | some command => do
      let (world, reply) ← execute rules world command
      let next ← advance program
      return { Tick.moveTo world next with log := reply.log?, error := reply.error? }
  | .assignment => do
    let next ← advance program
    return { Tick.moveTo world next with log := some Tick.assignmentText }
  | .blank | .noOp => do
    let next ← advance program
    return Tick.moveTo world next

def atEnd (world : World) (program : Program) : Option Tick :=
  if program.nesting.isEmpty then some { Tick.moveTo world program with status := .exhausted }
  else do
    match ← close 0 program.nesting with
    | .loopedBack cursor nesting => return Tick.moveTo world ⟨cursor, nesting⟩
    | .fellThrough nesting => return Tick.moveTo world { program with nesting := nesting }

def atLine (rules : Rules) (script : Script) (line : String) (world : World)
    (program : Program) : Option Tick :=
  if Script.isSkippable line then do
    let next ← advance program
    return Tick.moveTo world next
  else do
    let indent := Script.indentOf line
    match ← close indent program.nesting with
    | .loopedBack cursor nesting => return Tick.moveTo world ⟨cursor, nesting⟩
    | .fellThrough nesting =>
      dispatch rules script indent world { program with nesting := nesting }
        (Statement.classify line)

/-- A tick in checked arithmetic. The tiles that ripen are counted in a word as well. -/
def tick (rules : Rules) (script : Script) (world : World) (program : Program) : Option Tick := do
  let _ ← Text.word64? (world.grid.ripened rules.growthStep)
  let grown := world.grow rules.growthStep
  match script.line? program.cursor with
  | none => atEnd grown program
  | some line => atLine rules script line grown program

/-! ## The program -/

theorem nextLine_eq {i : Nat} (h : i + 1 < UInt64.size) : nextLine i = some (i + 1) := if_pos h

theorem word32?_add_one {iteration target : UInt32} (h : iteration.toNat + 1 < target.toNat) :
    Text.word32? (iteration.toNat + 1) = some (iteration + 1) := by
  rw [← toNat_add_one_of_lt h, Text.word32?_toNat]

theorem close_eq {indent : Nat} {nesting : Nesting}
    (h : ∀ block ∈ nesting, block.line + 1 < UInt64.size) :
    close indent nesting = some (nesting.close indent) := by
  induction nesting with
  | nil => rfl
  | cons block outer ih =>
    have houter := ih fun b hb => h b (List.mem_cons_of_mem block hb)
    have hline := nextLine_eq (h block List.mem_cons_self)
    obtain ⟨kind, line, deep⟩ := block
    unfold close Nesting.close
    by_cases hclosed : Block.isClosedBy indent ⟨kind, line, deep⟩ = true
    · rw [if_pos hclosed, if_pos hclosed]
      cases kind with
      | whileLoop => rfl
      | forLoop iteration target =>
        by_cases hagain : saturatingAdd iteration 1 < target
        · have hpass := word32?_add_one ((saturatingAdd_one_lt_iff iteration target).mp hagain)
          simp [hagain, hpass, hline]
        · simpa only [if_neg hagain] using houter
      | ifThen => exact houter
      | elseThen => exact houter
    · rw [if_neg hclosed, if_neg hclosed]

theorem blockEnd_eq {script : Script} {header : Nat} (hheader : header + 1 < UInt64.size)
    (hlength : script.length < UInt64.size) (indent : Nat) :
    blockEnd script header indent = some (script.blockEnd header indent) := by
  have hle : script.blockEnd header indent ≤ script.length := Script.blockEnd_le_length header indent
  unfold Script.blockEnd at hle ⊢
  rw [blockEnd, nextLine_eq hheader, Option.bind_eq_bind, Option.bind_some]
  cases hfind : (script.lines.toList.drop (header + 1)).findIdx? (Script.endsBlock indent) with
  | none => rfl
  | some i =>
    rw [hfind] at hle
    exact if_pos (Nat.lt_of_le_of_lt hle hlength)

section Cursor
variable {program : Program} (hcursor : program.cursor + 1 < UInt64.size)
include hcursor

theorem advance_eq : advance program = some program.advance := by
  rw [advance, nextLine_eq hcursor]
  rfl

theorem enter_eq (kind : Block.Kind) (indent : Nat) :
    enter kind indent program = some (program.enter kind indent) := by
  rw [enter, nextLine_eq hcursor]
  rfl

variable {script : Script} (hlength : script.length < UInt64.size)
include hlength

theorem skip_eq (indent : Nat) : skip script indent program = some (program.skip script indent) := by
  rw [skip, blockEnd_eq hcursor hlength]
  rfl

theorem branch_eq (indent : Nat) {size : UInt64} {world : World} (hworld : world.InOrder size)
    (hsize : size.toNat ^ 2 < 2 ^ 63) (kind : Block.Kind) (condition : Condition) :
    branch script indent world program kind condition =
      some (if condition.holds world then program.enter kind indent
        else program.skip script indent) := by
  rw [branch, holds_eq hworld hsize, Option.bind_eq_bind, Option.bind_some]
  cases condition.holds world with
  | true => exact enter_eq hcursor kind indent
  | false => exact skip_eq hcursor hlength indent

theorem dispatch_eq (rules : Rules) (indent : Nat) {size : UInt64} {world : World}
    (hworld : world.InOrder size) (hsize : size.toNat ^ 2 < 2 ^ 63) (statement : Statement) :
    dispatch rules script indent world program statement =
      some (Tick.dispatch rules script indent world program statement) := by
  cases statement with
  | whileLoop condition =>
    rw [dispatch, branch_eq hcursor hlength indent hworld hsize]
    rfl
  | forLoop count =>
    rw [dispatch, enter_eq hcursor]
    rfl
  | ifThen condition =>
    rw [dispatch, branch_eq hcursor hlength indent hworld hsize]
    rfl
  | elseThen =>
    rw [dispatch, enter_eq hcursor]
    rfl
  | call word =>
    rw [dispatch, Tick.dispatch, advance_eq hcursor]
    cases Command.ofWord? word with
    | none => rfl
    | some command => simp only [execute_eq hworld hsize]; rfl
  | assignment =>
    rw [dispatch, advance_eq hcursor]
    rfl
  | blank =>
    rw [dispatch, advance_eq hcursor]
    rfl
  | noOp =>
    rw [dispatch, advance_eq hcursor]
    rfl

end Cursor

/-! ## The tick -/

theorem atEnd_eq {program : Program} (world : World)
    (hlines : ∀ block ∈ program.nesting, block.line + 1 < UInt64.size) :
    atEnd world program = some (Tick.atEnd world program) := by
  unfold atEnd Tick.atEnd
  split
  · rfl
  · rw [close_eq hlines, Option.bind_eq_bind, Option.bind_some]
    cases program.nesting.close 0 <;> rfl

theorem atLine_eq {size : UInt64} {script : Script} {world : World} {program : Program}
    (hworld : world.InOrder size) (hsize : size.toNat ^ 2 < 2 ^ 63)
    (hcursor : program.cursor + 1 < UInt64.size) (hlength : script.length < UInt64.size)
    (hlines : ∀ block ∈ program.nesting, block.line + 1 < UInt64.size) (rules : Rules)
    (line : String) :
    atLine rules script line world program = some (Tick.atLine rules script line world program) := by
  unfold atLine Tick.atLine
  split
  · rw [advance_eq hcursor]
    rfl
  · simp only [close_eq hlines, Option.bind_eq_bind, Option.bind_some]
    cases program.nesting.close (Script.indentOf line) with
    | loopedBack cursor nesting => rfl
    | fellThrough nesting =>
      have hcursor' : (Program.mk program.cursor nesting).cursor + 1 < UInt64.size := hcursor
      exact dispatch_eq hcursor' hlength rules _ hworld hsize _

theorem ripened_fits {size : UInt64} {grid : Grid} (h : grid.InOrder size)
    (hsize : size.toNat ^ 2 < 2 ^ 63) (step : UInt32) : grid.ripened step < UInt64.size := by
  have hcount : grid.ripened step ≤ grid.tiles.size := Array.countP_le_size
  rw [h.count_eq, ← Nat.pow_two] at hcount
  have hword : UInt64.size = 2 ^ 64 := rfl
  omega

theorem tick_eq {size : UInt64} {script : Script} {world : World} {program : Program}
    (hworld : world.InOrder size) (hsize : size.toNat ^ 2 < 2 ^ 63)
    (hprogram : program.Enclosed script) (hlength : script.length < 2 ^ 63) (rules : Rules) :
    tick rules script world program = some (FarmScript.tick rules script world program) := by
  have hword : UInt64.size = 2 ^ 64 := rfl
  have hcursor := hprogram.cursor_le
  have hlines : ∀ block ∈ program.nesting, block.line + 1 < UInt64.size := by
    intro block hmem
    have habove := (hprogram.inside block hmem).1
    omega
  have hgrown := hworld.grow rules.growthStep
  have hripened : Text.word64? (world.grid.ripened rules.growthStep) =
      some (UInt64.ofNat (world.grid.ripened rules.growthStep)) :=
    if_pos (ripened_fits hworld.grid hsize rules.growthStep)
  rw [tick, hripened, Option.bind_eq_bind, Option.bind_some, FarmScript.tick]
  cases script.line? program.cursor with
  | none => exact atEnd_eq _ hlines
  | some line => exact atLine_eq hgrown hsize (by omega) (by omega) hlines rules line

/-! A farm or a program from elsewhere need not be in order: a bot beside the field has nothing to
sow, and after the last line that a word can count there is no body to go back to. -/

example : tick Rules.default ⟨#["plant()"]⟩
    { Rules.default.freshWorld with bot := { Bot.spawn with x := 6 } } .start = none := by
  decide +kernel

example : tick Rules.default ⟨#["pass()"]⟩ Rules.default.freshWorld
    ⟨0, [⟨.forLoop 0 2, UInt64.size - 1, 0⟩]⟩ = none := by
  decide +kernel

end Checked

end FarmScript
