import FarmScript.Proofs.Machine.Run
import FarmScript.Proofs.Machine.Step
import Mathlib.Order.Bounds.Defs

/-! # Scripts without blocks

A script in which no line opens a block is carried out from top to bottom, a line a tick. With no
block open nothing can be closed, so a tick at a line lets the field grow, does what the line says
and goes on to the next one (`tick_of_plain_line`), and the farm at the end is the farm at the
beginning with the lines worked off one after the other (`stateAfter_straight`).
-/

namespace FarmScript
set_option autoImplicit false

/-- Whether no line of a script opens a block. -/
def Script.IsStraight (script : Script) : Prop :=
  ∀ line ∈ script.lines, (Statement.classify line).blockKind? = none

instance (script : Script) : Decidable script.IsStraight :=
  inferInstanceAs (Decidable (∀ line ∈ script.lines, _))

/-- The farm after a tick that carries a line out: the field grows, then the bot does what the line
says, which is something only if it calls the word of a command. -/
def World.workOff (rules : Rules) (world : World) (line : String) : World :=
  (Statement.classify line).effect rules (world.grow rules.growthStep)

theorem World.workOff_of_skippable (rules : Rules) (world : World) {line : String}
    (h : Script.isSkippable line = true) :
    world.workOff rules line = world.grow rules.growthStep := by
  rw [workOff, (Statement.classify_eq_blank_iff line).mpr h, Statement.effect]

theorem tick_of_plain_line (rules : Rules) {script : Script} (world : World) {i : Nat}
    {line : String} (hline : script.line? i = some line)
    (hplain : (Statement.classify line).blockKind? = none) :
    (tick rules script world ⟨i, []⟩).world = world.workOff rules line ∧
      (tick rules script world ⟨i, []⟩).program = ⟨i + 1, []⟩ := by
  cases hskip : Script.isSkippable line with
  | true =>
    rw [tick_eq_passed rules world hline hskip, World.workOff_of_skippable rules world hskip]
    exact ⟨rfl, rfl⟩
  | false =>
    rw [tick_eq_dispatched rules world hline hskip rfl, dispatch_world, dispatch_program, hplain]
    exact ⟨rfl, rfl⟩

theorem stateAfter_straight (rules : Rules) {script : Script} (world : World)
    (hscript : script.IsStraight) {k : Nat} (hk : k ≤ script.length) :
    stateAfter rules script world Program.start k =
      ((script.lines.toList.take k).foldl (World.workOff rules) world, ⟨k, []⟩) := by
  induction k with
  | zero => rfl
  | succ k ih =>
    have hlt : k < script.lines.toList.length := hk
    have hline : script.line? k = some script.lines.toList[k] := by
      simp [Script.line?]
    have hplain := hscript _ (Array.mem_of_getElem? hline)
    obtain ⟨hworld, hprogram⟩ := tick_of_plain_line rules
      ((script.lines.toList.take k).foldl (World.workOff rules) world) hline hplain
    rw [stateAfter_succ, tickAfter, ih (Nat.le_of_succ_le hk), hworld, hprogram,
      List.take_succ_eq_append_getElem hlt, List.foldl_append]
    rfl

/-- A script without blocks is carried out from top to bottom. After `k` ticks, `k` being at most
the number of lines, the `k`-th line, counted from 0, is next and no block is open; the tick that
follows the last line is the first to find the script exhausted; and the farm is then the one at the
start with the lines worked off in their order. -/
theorem straight_script_goes_down (rules : Rules) {script : Script} (world : World)
    (hscript : script.IsStraight) :
    (∀ k ≤ script.length, (stateAfter rules script world Program.start k).2 = ⟨k, []⟩) ∧
      IsLeast {k | (tickAfter rules script world Program.start k).status = .exhausted}
        script.length ∧
      (stateAfter rules script world Program.start script.length).1 =
        script.lines.foldl (World.workOff rules) world := by
  have hprogram {k : Nat} (hk : k ≤ script.length) :
      (stateAfter rules script world Program.start k).2 = ⟨k, []⟩ := by
    rw [stateAfter_straight rules world hscript hk]
  refine ⟨fun k hk => hprogram hk, ⟨?_, ?_⟩, ?_⟩
  · apply (tick_status_eq_exhausted_iff rules script _ _).mpr
    rw [hprogram (Nat.le_refl _)]
    exact ⟨Nat.le_refl _, rfl⟩
  · intro k hk
    by_contra hlt
    obtain ⟨hend, -⟩ := (tick_status_eq_exhausted_iff rules script _ _).mp hk
    rw [hprogram (by omega)] at hend
    exact hlt hend
  · have hall : script.lines.toList.take script.length = script.lines.toList :=
      List.take_of_length_le (Nat.le_refl _)
    rw [stateAfter_straight rules world hscript (Nat.le_refl _), hall, Array.foldl_toList]

/-- Lines that only resemble headers, an uneven indentation, a comment and a call with something
behind it: of five ticks one does anything, and the sixth finds the script exhausted. -/
theorem straight_script_goes_down_lookalikes :
    let script : Script :=
      ⟨#["whileTrue:", "      plant() # seeds", "if(True):", "  # elif", "   elif check_soil():"]⟩
    let rules := Rules.default
    let farm := (stateAfter rules script rules.freshWorld Program.start 5).1
    script.IsStraight ∧
      IsLeast {k | (tickAfter rules script rules.freshWorld Program.start k).status = .exhausted}
        5 ∧
      farm = script.lines.foldl (World.workOff rules) rules.freshWorld ∧ farm.gold = 18 := by
  intro script rules farm
  have hscript : script.IsStraight := by decide +kernel
  obtain ⟨-, hleast, hfarm⟩ := straight_script_goes_down rules rules.freshWorld hscript
  exact ⟨hscript, hleast, hfarm, by decide +kernel⟩

end FarmScript
