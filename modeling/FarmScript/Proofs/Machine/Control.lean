import FarmScript.Proofs.Machine.Run
import FarmScript.Proofs.Machine.Step

/-! # The farm steers a script by its conditions alone

All that a tick learns from the farm is whether the block of the header it comes to is entered
(`answer?`). Where two farms give the same answer, a tick leaves one program and one status, by
whatever rules it is made on either farm (`tick_control_eq`): what becomes of a command, and what
ripens, moves neither the next line nor the open blocks. So two runs from one program go the same
way as long as they get the same answers (`stateAfter_control_eq`), and always in a script that asks
nothing of the farm.
-/

namespace FarmScript
set_option autoImplicit false

/-- What the next tick learns from the farm: the answer to the header in the next line. A line that
asks nothing is answered yes. -/
def answer? (rules : Rules) (script : Script) (world : World) (program : Program) : Option Bool :=
  (script.line? program.cursor).map fun line =>
    (Statement.classify line).isEntered (world.grow rules.growthStep)

section Tick
variable {rules rules' : Rules} {script : Script} {world world' : World} {program : Program}

theorem isEntered_eq_of_answer? {line : String} (hline : script.line? program.cursor = some line)
    (h : answer? rules' script world' program = answer? rules script world program) :
    (Statement.classify line).isEntered (world'.grow rules'.growthStep) =
      (Statement.classify line).isEntered (world.grow rules.growthStep) := by
  simpa only [answer?, hline, Option.map_some, Option.some.injEq] using h

theorem tick_control_eq
    (h : answer? rules' script world' program = answer? rules script world program) :
    (tick rules' script world' program).program = (tick rules script world program).program ∧
      (tick rules' script world' program).status = (tick rules script world program).status := by
  cases tick_case rules script world program with
  | exhausted hend hnone ht =>
    rw [ht, tick_eq_exhausted rules' world' hend hnone]
    exact ⟨rfl, rfl⟩
  | passed hline hskip ht =>
    rw [ht, tick_eq_passed rules' world' hline hskip]
    exact ⟨rfl, rfl⟩
  | loopedBack hindent hclose ht =>
    rw [ht, tick_eq_loopedBack rules' world' hindent hclose]
    exact ⟨rfl, rfl⟩
  | closed hend hopen hclose ht =>
    rw [ht, tick_eq_closed rules' world' hend hopen hclose]
    exact ⟨rfl, rfl⟩
  | dispatched hline hskip hclose ht =>
    -- of the two farms only the answer to the guard comes into where the program goes
    rw [ht, tick_eq_dispatched rules' world' hline hskip hclose, dispatch_program,
      dispatch_program, dispatch_status, dispatch_status, isEntered_eq_of_answer? hline h]
    exact ⟨rfl, rfl⟩

/-- A second run follows the first as long as its farm answers every header that the first comes to
alike. -/
theorem stateAfter_control_eq (n : Nat)
    (h : ∀ i < n,
      answer? rules' script (stateAfter rules' script world' program i).1
          (stateAfter rules script world program i).2 =
        answer? rules script (stateAfter rules script world program i).1
          (stateAfter rules script world program i).2) :
    (stateAfter rules' script world' program n).2 =
      (stateAfter rules script world program n).2 := by
  induction n with
  | zero => rfl
  | succ n ih =>
    have hprogram := ih fun i hi => h i (Nat.lt_succ_of_lt hi)
    rw [stateAfter_succ, stateAfter_succ, tickAfter, tickAfter, hprogram]
    exact (tick_control_eq (h n (Nat.lt_succ_self n))).1

end Tick

/-! ## Scripts that ask nothing of the farm -/

/-- Whether a condition has one answer on all farms. -/
def Condition.isFixed : Condition → Bool
  | literal _ | unknown => true
  | ripe | emptySoil | atColumn _ | atRow _ => false

theorem Condition.holds_eq_of_isFixed {condition : Condition} (h : condition.isFixed = true)
    (world world' : World) : condition.holds world' = condition.holds world := by
  cases condition with
  | literal value => rfl
  | unknown => rfl
  | ripe => cases h
  | emptySoil => cases h
  | atColumn x => cases h
  | atRow y => cases h

/-- Whether every condition in a header of a script has one answer on all farms. -/
def Script.AsksNothing (script : Script) : Prop :=
  ∀ line ∈ script.lines, ∀ condition ∈ (Statement.classify line).guard?, condition.isFixed = true

instance (script : Script) : Decidable script.AsksNothing :=
  inferInstanceAs (Decidable (∀ line ∈ script.lines, ∀ condition ∈ _, _))

theorem Script.AsksNothing.answer?_eq {script : Script} (h : script.AsksNothing)
    (rules rules' : Rules) (world world' : World) (program : Program) :
    answer? rules' script world' program = answer? rules script world program := by
  apply Option.map_congr
  intro line hline
  have hmem : line ∈ script.lines := Array.mem_of_getElem? hline
  apply Statement.isEntered_congr
  intro condition hguard
  exact Condition.holds_eq_of_isFixed (h line hmem condition hguard) _ _

/-- In a script whose headers ask nothing of the farm, two runs from one program go the same way, on
any two farms and by any two sets of rules: after every number of ticks the same line is next, the
same blocks are open and the script goes on in both runs or in none, whatever the commands of either
run come to. -/
theorem control_ignores_farm {script : Script} (hscript : script.AsksNothing)
    (rules rules' : Rules) (world world' : World) (program : Program) (n : Nat) :
    let t := tickAfter rules script world program n
    let t' := tickAfter rules' script world' program n
    t'.program = t.program ∧ t'.status = t.status := by
  intro t t'
  have hprogram : (stateAfter rules' script world' program n).2 =
      (stateAfter rules script world program n).2 :=
    stateAfter_control_eq n fun i _ => hscript.answer?_eq rules rules' _ _ _
  simp only [t, t', tickAfter, hprogram]
  exact tick_control_eq (hscript.answer?_eq rules rules' _ _ _)

/-- A loop that sows ahead, with a header that nobody understands behind it. On the one farm the bot
stands at the wall without gold, on the other it has room and money: the third tick is refused here
and obeyed there, and both runs stand before the same line inside the same block. -/
theorem control_ignores_farm_refused :
    let script : Script :=
      ⟨#["for i in range(2):", "    forward()", "    plant()", "if gold > 10:", "    left()"]⟩
    let poor : Rules := { Rules.default with gridSize := 1, startingGold := 0 }
    let rich := Rules.default
    let t := tickAfter rich script rich.freshWorld Program.start 2
    let t' := tickAfter poor script poor.freshWorld Program.start 2
    script.AsksNothing ∧ t.error = none ∧ t'.error = some "Not enough gold (need 2 G)" ∧
      t'.program = t.program ∧ t'.status = t.status := by
  intro script poor rich t t'
  have hscript : script.AsksNothing := by decide +kernel
  have hsame := control_ignores_farm hscript rich poor rich.freshWorld poor.freshWorld
    Program.start 2
  exact ⟨hscript, by decide +kernel, by decide +kernel, hsame⟩

end FarmScript
