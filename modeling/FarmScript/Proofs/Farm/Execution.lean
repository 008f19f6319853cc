import FarmScript.Proofs.Machine.Step

/-! # What a command can do

`Command.Case` says once all that carrying out a command can come to: a move onto a tile of the
field, a turn, one of the three kinds of work on the tile under the bot, each with what it needs,
or nothing at all. `Program.command?` is the command that the next tick carries out, on the farm as
it is when the field has grown (`tick_of_command`, `tick_of_no_command`).
-/

namespace FarmScript
set_option autoImplicit false

namespace Command

/-- What a command does to a farm and what it replies, with the conditions for it. -/
inductive Case (rules : Rules) (world : World) : Command → World → Reply → Prop
  | moved (hon : world.grid.contains world.bot.ahead.1 world.bot.ahead.2 = true) :
      Case rules world forward
        { world with bot := { world.bot with
            x := world.bot.ahead.1.toUInt64, y := world.bot.ahead.2.toUInt64 } }
        (.moved world.bot.ahead.1 world.bot.ahead.2)
  | turnedLeft : Case rules world left (turn world.bot.heading.turnLeft world) .turnedLeft
  | turnedRight : Case rules world right (turn world.bot.heading.turnRight world) .turnedRight
  | sown (hcrop : world.cropUnderBot? = some .empty) (hgold : rules.plantCost ≤ world.gold) :
      Case rules world plant
        { world.modifyUnderBot (·.setCrop .planted) with gold := world.gold - rules.plantCost }
        (.sown rules.plantCost)
  | watered {crop : Crop} (hcrop : world.cropUnderBot? = some crop)
      (hgold : rules.waterCost ≤ world.gold) :
      Case rules world water
        { world.modifyUnderBot (fun tile => { tile with crop := .watered, growth := 0 }) with
          gold := world.gold - rules.waterCost }
        (.watered rules.waterCost)
  | harvested (hcrop : world.cropUnderBot? = some .ripe) :
      Case rules world harvest
        { world.modifyUnderBot (·.setCrop .empty) with
          gold := saturatingAdd world.gold rules.harvestValue
          bot := { world.bot with inventory := saturatingAdd world.bot.inventory 1 } }
        (.harvested rules.harvestValue)
  | unchanged {command : Command} {reply : Reply} (hreply : reply.changed = false)
      (hoff : reply = .offFarm → world.cropUnderBot? = none) : Case rules world command world reply

theorem execute_case (rules : Rules) (world : World) (command : Command) :
    Case rules world command (command.execute rules world).1 (command.execute rules world).2 := by
  cases command with
  | forward =>
    simp only [execute, goForward]
    split
    · next hon => exact .moved hon
    · exact .unchanged rfl (by simp)
  | left => exact .turnedLeft
  | right => exact .turnedRight
  | plant =>
    simp only [execute, sow]
    split
    · next hcrop => exact .unchanged rfl fun _ => hcrop
    · next crop hcrop =>
      split
      · exact .unchanged rfl (by simp)
      · next hempty =>
        obtain rfl : crop = .empty := by simpa using hempty
        split
        · exact .unchanged rfl (by simp)
        · next hgold => exact .sown hcrop (UInt32.not_lt.mp hgold)
  | water =>
    simp only [execute, irrigate]
    split
    · exact .unchanged rfl (by simp)
    · next hgold =>
      split
      · next hcrop => exact .unchanged rfl fun _ => hcrop
      · next hcrop => exact .watered hcrop (UInt32.not_lt.mp hgold)
  | harvest =>
    simp only [execute, reap]
    split
    · next hcrop => exact .unchanged rfl fun _ => hcrop
    · next crop hcrop =>
      split
      · exact .unchanged rfl (by simp)
      · next hripe =>
        obtain rfl : crop = .ripe := by simpa using hripe
        exact .harvested hcrop
  | pass => exact .unchanged rfl (by simp [execute])

end Command

/-! ## The command of a tick -/

/-- The command that a statement gives. -/
def Statement.command? : Statement → Option Command
  | call word => Command.ofWord? word
  | blank | whileLoop _ | forLoop _ | ifThen _ | elseThen | assignment | noOp => none

/-- The command that the next tick carries out: the next line gives one and sends no loop back. -/
def Program.command? (script : Script) (program : Program) : Option Command :=
  (script.line? program.cursor).bind fun line =>
    match program.nesting.close (Script.indentOf line) with
    | .loopedBack _ _ => none
    | .fellThrough _ => (Statement.classify line).command?

section Tick
variable (rules : Rules) {script : Script} (world : World) {program : Program}

theorem command?_of_skippable {line : String} (hline : script.line? program.cursor = some line)
    (hskip : Script.isSkippable line = true) : program.command? script = none := by
  have hblank := (Statement.classify_eq_blank_iff line).mpr hskip
  simp only [Program.command?, hline, Option.bind_some, hblank]
  split <;> rfl

theorem command?_of_length_le (hend : script.length ≤ program.cursor) :
    program.command? script = none := by
  simp [Program.command?, Script.line?_eq_none_iff.mpr hend]

theorem command?_of_loopedBack {indent cursor : Nat} {nesting : Nesting}
    (hindent : script.closingIndent? program.cursor = some indent)
    (hclose : program.nesting.close indent = .loopedBack cursor nesting) :
    program.command? script = none := by
  cases hline : script.line? program.cursor with
  | none => exact command?_of_length_le (Script.line?_eq_none_iff.mp hline)
  | some line =>
    obtain ⟨-, rfl⟩ : Script.isSkippable line = false ∧ Script.indentOf line = indent := by
      simpa [Script.closingIndent?, hline] using hindent
    simp [Program.command?, hline, hclose]

theorem command?_of_dispatched {line : String} {nesting : Nesting}
    (hline : script.line? program.cursor = some line)
    (hclose : program.nesting.close (Script.indentOf line) = .fellThrough nesting) :
    program.command? script = (Statement.classify line).command? := by
  simp [Program.command?, hline, hclose]

theorem tick_of_command {command : Command} (h : program.command? script = some command) :
    let t := tick rules script world program
    let result := command.execute rules (world.grow rules.growthStep)
    t.world = result.1 ∧ t.log = result.2.log? ∧ t.error = result.2.error? := by
  cases tick_case rules script world program with
  | exhausted hend hnone ht => rw [command?_of_length_le hend] at h; cases h
  | passed hline hskip ht => rw [command?_of_skippable hline hskip] at h; cases h
  | loopedBack hindent hclose ht => rw [command?_of_loopedBack hindent hclose] at h; cases h
  | closed hend hopen hclose ht => rw [command?_of_length_le hend] at h; cases h
  | @dispatched line nesting hline hskip hclose ht =>
    rw [command?_of_dispatched hline hclose] at h
    rw [ht]
    cases hstatement : Statement.classify line with
    | call word =>
      have hword : Command.ofWord? word = some command := by
        rw [hstatement] at h
        exact h
      simp [Tick.dispatch, Tick.moveTo, hword]
    | _ =>
      rw [hstatement] at h
      cases h

theorem tick_of_no_command (h : program.command? script = none) :
    let t := tick rules script world program
    t.world = world.grow rules.growthStep ∧ t.error = none := by
  cases tick_case rules script world program with
  | exhausted hend hnone ht => rw [ht]; exact ⟨rfl, rfl⟩
  | passed hline hskip ht => rw [ht]; exact ⟨rfl, rfl⟩
  | loopedBack hindent hclose ht => rw [ht]; exact ⟨rfl, rfl⟩
  | closed hend hopen hclose ht => rw [ht]; exact ⟨rfl, rfl⟩
  | @dispatched line nesting hline hskip hclose ht =>
    rw [command?_of_dispatched hline hclose] at h
    rw [ht]
    cases hstatement : Statement.classify line with
    | call word =>
      have hword : Command.ofWord? word = none := by
        rw [hstatement] at h
        exact h
      simp only [Tick.dispatch, hword]
      exact ⟨rfl, rfl⟩
    | _ => exact ⟨rfl, rfl⟩

end Tick

end FarmScript
