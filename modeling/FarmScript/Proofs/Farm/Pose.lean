import FarmScript.Proofs.Machine.Step

/-! # Where the bot goes

Where the bot stands and looks after a command depends on where it stood and looked and on the size
of the field, and on nothing else of the farm (`pose_execute`): not on crops, growth or gold, and
not on the rules. The conditions that are no sensors depend on no more than that
(`holds_eq_of_pose`).
-/

namespace FarmScript
set_option autoImplicit false

/-- Where the bot stands and which way it looks. -/
structure Pose where
  x : UInt64
  y : UInt64
  heading : Heading
deriving DecidableEq

/-- The pose of the bot on a farm. -/
def World.pose (world : World) : Pose := ⟨world.bot.x, world.bot.y, world.bot.heading⟩

namespace Command

/-- The pose after a command on a field of a size. -/
def poseAfter (size : UInt64) (pose : Pose) : Command → Pose
  | forward =>
    let x := pose.x.toInt64 + pose.heading.delta.1
    let y := pose.y.toInt64 + pose.heading.delta.2
    if 0 ≤ x && 0 ≤ y && x.toUInt64 < size && y.toUInt64 < size then
      { pose with x := x.toUInt64, y := y.toUInt64 }
    else pose
  | left => { pose with heading := pose.heading.turnLeft }
  | right => { pose with heading := pose.heading.turnRight }
  | plant | water | harvest | pass => pose

theorem pose_execute (rules : Rules) (world : World) (command : Command) :
    (command.execute rules world).1.pose = command.poseAfter world.grid.size world.pose := by
  cases command with
  | forward =>
    by_cases hon : world.grid.contains world.bot.ahead.1 world.bot.ahead.2 = true
    · have hexecute : execute rules world forward =
          ({ world with bot := { world.bot with
              x := world.bot.ahead.1.toUInt64, y := world.bot.ahead.2.toUInt64 } },
            .moved world.bot.ahead.1 world.bot.ahead.2) := if_pos hon
      have hpose : poseAfter world.grid.size world.pose forward =
          { world.pose with x := world.bot.ahead.1.toUInt64, y := world.bot.ahead.2.toUInt64 } :=
        if_pos hon
      rw [hexecute, hpose]
      rfl
    · have hexecute : execute rules world forward = (world, .wall) := if_neg hon
      have hpose : poseAfter world.grid.size world.pose forward = world.pose := if_neg hon
      rw [hexecute, hpose]
  | left => rfl
  | right => rfl
  | plant =>
    simp only [execute, sow, poseAfter]
    repeat' split
    all_goals rfl
  | water =>
    simp only [execute, irrigate, poseAfter]
    repeat' split
    all_goals rfl
  | harvest =>
    simp only [execute, reap, poseAfter]
    repeat' split
    all_goals rfl
  | pass => rfl

theorem size_modifyUnderBot (world : World) (change : Tile → Tile) :
    (world.modifyUnderBot change).grid.size = world.grid.size := by
  unfold World.modifyUnderBot Grid.modify
  split <;> rfl

theorem size_execute (rules : Rules) (world : World) (command : Command) :
    (command.execute rules world).1.grid.size = world.grid.size := by
  cases command with
  | forward =>
    simp only [execute, goForward]
    split <;> rfl
  | left => rfl
  | right => rfl
  | plant =>
    simp only [execute, sow]
    repeat' split
    all_goals first | rfl | exact size_modifyUnderBot world _
  | water =>
    simp only [execute, irrigate]
    repeat' split
    all_goals first | rfl | exact size_modifyUnderBot world _
  | harvest =>
    simp only [execute, reap]
    repeat' split
    all_goals first | rfl | exact size_modifyUnderBot world _
  | pass => rfl

end Command

/-! ## Farms with one pose -/

/-- Whether two farms have the bot in one pose, on fields of one size. -/
def World.Alike (world world' : World) : Prop :=
  world.pose = world'.pose ∧ world.grid.size = world'.grid.size

theorem World.Alike.grow {world world' : World} (h : world.Alike world') (step step' : UInt32) :
    (world.grow step).Alike (world'.grow step') := h

theorem World.Alike.effect {world world' : World} (h : world.Alike world') (rules rules' : Rules)
    (statement : Statement) :
    (statement.effect rules world).Alike (statement.effect rules' world') := by
  obtain ⟨hpose, hsize⟩ := h
  cases statement with
  | call word =>
    cases hword : Command.ofWord? word with
    | none =>
      simp only [Statement.effect, hword]
      exact ⟨hpose, hsize⟩
    | some command =>
      simp only [Statement.effect, hword, World.Alike, Command.pose_execute, Command.size_execute]
      rw [hpose, hsize]
      exact ⟨rfl, rfl⟩
  | _ => exact ⟨hpose, hsize⟩

/-- Whether a condition asks about the crop under the bot. -/
def Condition.isSensor : Condition → Bool
  | ripe | emptySoil => true
  | literal _ | atColumn _ | atRow _ | unknown => false

theorem Condition.holds_eq_of_pose {world world' : World} {condition : Condition}
    (hcondition : condition.isSensor = false) (h : world.pose = world'.pose) :
    condition.holds world = condition.holds world' := by
  have hx : world.bot.x = world'.bot.x := congrArg Pose.x h
  have hy : world.bot.y = world'.bot.y := congrArg Pose.y h
  cases condition with
  | literal value => rfl
  | ripe => cases hcondition
  | emptySoil => cases hcondition
  | atColumn x =>
    rw [holds, holds, decide_eq_decide, Bot.column, Bot.column, hx]
  | atRow y =>
    rw [holds, holds, decide_eq_decide, Bot.row, Bot.row, hy]
  | unknown => rfl

theorem Statement.isEntered_eq_of_pose {world world' : World} {statement : Statement}
    (hguard : ∀ condition ∈ statement.guard?, condition.isSensor = false)
    (h : world.pose = world'.pose) : statement.isEntered world = statement.isEntered world' := by
  apply isEntered_congr
  intro condition hmem
  exact Condition.holds_eq_of_pose (hguard condition hmem) h

end FarmScript
