import FarmScript.Farm.World
import FarmScript.Fault

/-! # The rules of a game

`Rules` holds the numbers that a game can be set up with: the size of the field, how fast crops
grow, what work costs and earns, and how much of the log is kept. Rules are playable when
`Rules.validate` finds no `Rules.Problem`.
-/

namespace FarmScript
set_option autoImplicit false

/-- The numbers a game is played by. -/
structure Rules where
  /-- The side of the field. -/
  gridSize : UInt64
  /-- How much a watered crop grows in one tick. -/
  growthStep : UInt32
  /-- The gold that one harvest earns. -/
  harvestValue : UInt32
  /-- The gold that sowing one tile costs. -/
  plantCost : UInt32
  /-- The gold that watering one tile costs. -/
  waterCost : UInt32
  /-- The gold at the start. -/
  startingGold : UInt32
  /-- How many messages the log keeps. -/
  maxLogs : UInt64
  /-- The pause between two ticks in milliseconds. -/
  tickIntervalMs : UInt64
deriving DecidableEq

namespace Rules

/-- The rules a game has when nothing else is said. -/
def default : Rules where
  gridSize := 6
  growthStep := 25
  harvestValue := 15
  plantCost := 2
  waterCost := 1
  startingGold := 20
  maxLogs := 20
  tickIntervalMs := 600

instance : Inhabited Rules := ⟨default⟩

/-- The numbers that must not be zero. -/
inductive Problem where
  | gridSize
  | growthStep
  | maxLogs
deriving DecidableEq

/-- The field of the rules that a problem is about. -/
def Problem.field : Problem → String
  | gridSize => "grid_size"
  | growthStep => "growth_step"
  | maxLogs => "max_logs"

/-- The fault of a field of the rules. -/
def fieldFault (message field : String) : Fault :=
  ((Fault.of .configInvalid message).withOperation "config::validate").withContext "field" field

/-- The fault that reports a problem. -/
def Problem.fault (problem : Problem) : Fault :=
  fieldFault (problem.field ++ " must be at least 1") problem.field

/-- The first problem of the rules, if there is one. -/
def problem? (rules : Rules) : Option Problem :=
  if rules.gridSize = 0 then some .gridSize
  else if rules.growthStep = 0 then some .growthStep
  else if rules.maxLogs = 0 then some .maxLogs
  else none

/-- The rules again if they are playable, else the fault of their first problem. -/
def validate (rules : Rules) : Except Fault Rules :=
  match rules.problem? with
  | some problem => .error problem.fault
  | none => .ok rules

/-- The farm at the start of a game without a level. -/
def freshWorld (rules : Rules) : World := World.start rules.gridSize rules.startingGold

/-- Rules are without a problem exactly when none of the three numbers is zero. -/
theorem problem?_eq_none_iff (rules : Rules) :
    rules.problem? = none ↔ rules.gridSize ≠ 0 ∧ rules.growthStep ≠ 0 ∧ rules.maxLogs ≠ 0 := by
  unfold problem?
  split <;> rename_i h₁
  · simp [h₁]
  · split <;> rename_i h₂
    · simp [h₂]
    · split <;> rename_i h₃ <;> simp [h₁, h₂, h₃]

end Rules

end FarmScript
