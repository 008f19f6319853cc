import FarmScript.Machine.Tick

/-! # Runs

`stateAfter` is the farm and the program after a number of ticks and `tickAfter` the tick that
comes then. `Program.Reachable` is weaker: it lets rules and farm change in any way between two
ticks, so that what holds of every reachable program holds in every run.
-/

namespace FarmScript
set_option autoImplicit false

section Run
variable (rules : Rules) (script : Script) (world : World) (program : Program)

/-- The farm and the program after `n` ticks. -/
def stateAfter : Nat → World × Program
  | 0 => (world, program)
  | n + 1 =>
    let t := tick rules script (stateAfter n).1 (stateAfter n).2
    (t.world, t.program)

/-- The tick that follows the first `n` ticks. -/
def tickAfter (n : Nat) : Tick :=
  tick rules script (stateAfter rules script world program n).1
    (stateAfter rules script world program n).2

theorem stateAfter_succ (n : Nat) :
    stateAfter rules script world program (n + 1) =
      ((tickAfter rules script world program n).world,
        (tickAfter rules script world program n).program) := rfl

theorem stateAfter_succ_eq_tick (n : Nat) :
    stateAfter rules script world program (n + 1) =
      stateAfter rules script (tick rules script world program).world
        (tick rules script world program).program n := by
  induction n with
  | zero => rfl
  | succ n ih =>
    rw [stateAfter_succ, tickAfter, ih]
    rfl

theorem tickAfter_succ_eq_tick (n : Nat) :
    tickAfter rules script world program (n + 1) =
      tickAfter rules script (tick rules script world program).world
        (tick rules script world program).program n := by
  rw [tickAfter, stateAfter_succ_eq_tick]
  rfl

end Run

/-! ## Reachable programs -/

/-- The programs that ticks lead to from the start of a script, on any farms and by any rules. -/
inductive Program.Reachable (script : Script) : Program → Prop
  | start : Reachable script Program.start
  | tick {program : Program} (rules : Rules) (world : World) :
      Reachable script program →
        Reachable script (FarmScript.tick rules script world program).program

theorem reachable_stateAfter (rules : Rules) (script : Script) (world : World) (n : Nat) :
    Program.Reachable script (stateAfter rules script world Program.start n).2 := by
  induction n with
  | zero => exact .start
  | succ n ih => exact .tick rules _ ih

end FarmScript
