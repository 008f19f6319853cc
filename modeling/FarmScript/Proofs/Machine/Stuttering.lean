import FarmScript.Proofs.Farm.Pose
import FarmScript.Proofs.Machine.Condensed

/-! # Empty lines and comments carry no control flow

A script runs like its condensed form as long as no header asks a sensor. The run of the script
stutters: a tick at an empty line or a comment is no tick of the condensed script, and every other
tick is one (`tick_condensed`). The field has more time to grow in the run that stutters, so crops
and gold drift apart, but the bot is in one pose in both runs (`World.Alike`).

* `keptTicks`: how many of the first ticks are not at an empty line or a comment.
* `Dispatch`: a statement that a tick carries out, with its line and the poses around it.
-/

namespace FarmScript
set_option autoImplicit false

/-- Whether no header of a script asks about the crop under the bot. -/
def Script.HasNoSensor (script : Script) : Prop :=
  ∀ line ∈ script.lines, ∀ condition ∈ (Statement.classify line).guard?,
    condition.isSensor = false

/-- A statement that is carried out: its line, what it says, and the pose of the bot before and
after it. -/
structure Dispatch where
  line : Nat
  statement : Statement
  before : Pose
  after : Pose
deriving DecidableEq

/-- The same statement in the condensed script. -/
def Dispatch.condensed (script : Script) (dispatch : Dispatch) : Dispatch :=
  { dispatch with line := script.keptBefore dispatch.line }

/-- The statement that a tick carries out, if it carries one out: the next line is neither empty
nor a comment and sends no loop back. -/
def dispatch? (rules : Rules) (script : Script) (world : World) (program : Program) :
    Option Dispatch :=
  match script.line? program.cursor with
  | none => none
  | some line =>
    if Script.isSkippable line then none
    else match program.nesting.close (Script.indentOf line) with
      | .loopedBack _ _ => none
      | .fellThrough _ =>
        some ⟨program.cursor, Statement.classify line, world.pose,
          (tick rules script world program).world.pose⟩

/-! ## One tick -/

section Tick
variable (rules : Rules) {script : Script} {world world' : World} {program : Program}

theorem dispatch_program_condensed {line : String} (nesting : Nesting) {cursor : Nat}
    (hline : script.line? cursor = some line) (hskip : Script.isSkippable line = false)
    (hentered : (Statement.classify line).isEntered world =
      (Statement.classify line).isEntered world') :
    (Tick.dispatch rules script.condensed (Script.indentOf line) world'
        (Program.condensed script ⟨cursor, nesting⟩) (Statement.classify line)).program =
      (Tick.dispatch rules script (Script.indentOf line) world ⟨cursor, nesting⟩
        (Statement.classify line)).program.condensed script := by
  have hsucc : script.keptBefore (cursor + 1) = script.keptBefore cursor + 1 :=
    Script.keptBefore_succ_of_kept hline hskip
  rw [dispatch_program, dispatch_program]
  cases (Statement.classify line).blockKind? with
  | none => simp only [Program.condensed, Program.advance, hsucc]
  | some kind =>
    simp only [hentered]
    split
    · simp only [Program.condensed, Program.enter, Nesting.push, hsucc, List.map_cons,
        Block.condensed]
    · simp only [Program.condensed, Program.skip, Script.keptBefore_blockEnd hline hskip]

/-- A tick that is not at an empty line or a comment is a tick of the condensed script. -/
theorem tick_condensed (hscript : script.HasNoSensor) (h : program.Enclosed script)
    (halike : world.Alike world') (hkept : script.closingIndent? program.cursor ≠ none) :
    (tick rules script.condensed world' (program.condensed script)).program =
        (tick rules script world program).program.condensed script ∧
      (tick rules script world program).world.Alike
        (tick rules script.condensed world' (program.condensed script)).world := by
  have hclosed (indent : Nat) : (program.condensed script).nesting.close indent =
      (program.nesting.close indent).condensed script := close_condensed indent h.headed
  have hgrown := halike.grow rules.growthStep rules.growthStep
  cases tick_case rules script world program with
  | exhausted hend hnone ht =>
    have hend' : script.condensed.length ≤ (program.condensed script).cursor :=
      Script.length_condensed_le hend
    have hnone' : (program.condensed script).nesting = [] := by simp [Program.condensed, hnone]
    rw [ht, tick_eq_exhausted rules world' hend' hnone']
    exact ⟨rfl, hgrown⟩
  | passed hline hskip ht =>
    exact absurd (Script.closingIndent?_eq_none_iff.mpr ⟨_, hline, hskip⟩) hkept
  | @loopedBack indent cursor nesting hindent hclose ht =>
    have hclose' : (program.condensed script).nesting.close indent =
        .loopedBack (script.keptBefore cursor) (nesting.map (Block.condensed script)) := by
      rw [hclosed, hclose]
      rfl
    rw [ht, tick_eq_loopedBack rules world' (Script.closingIndent?_condensed hindent) hclose']
    exact ⟨rfl, hgrown⟩
  | closed hend hopen hclose ht =>
    have hend' : script.condensed.length ≤ (program.condensed script).cursor :=
      Script.length_condensed_le hend
    have hopen' : (program.condensed script).nesting ≠ [] := by
      simpa [Program.condensed] using hopen
    have hclose' : (program.condensed script).nesting.close 0 = .fellThrough [] := by
      rw [hclosed, hclose]
      rfl
    rw [ht, tick_eq_closed rules world' hend' hopen' hclose']
    exact ⟨rfl, hgrown⟩
  | @dispatched line nesting hline hskip hclose ht =>
    have hclose' : (program.condensed script).nesting.close (Script.indentOf line) =
        .fellThrough (nesting.map (Block.condensed script)) := by
      rw [hclosed, hclose]
      rfl
    have hmem : line ∈ script.lines := Array.mem_of_getElem? hline
    have hentered := Statement.isEntered_eq_of_pose (hscript line hmem) hgrown.1
    rw [ht, tick_eq_dispatched rules world' (Script.line?_condensed hline hskip) hskip hclose']
    refine ⟨dispatch_program_condensed rules nesting hline hskip hentered, ?_⟩
    rw [dispatch_world, dispatch_world]
    exact hgrown.effect rules rules (Statement.classify line)

theorem dispatch?_condensed (hscript : script.HasNoSensor) (h : program.Enclosed script)
    (halike : world.Alike world') (hkept : script.closingIndent? program.cursor ≠ none) :
    dispatch? rules script.condensed world' (program.condensed script) =
      (dispatch? rules script world program).map (Dispatch.condensed script) := by
  have hclosed (indent : Nat) : (program.condensed script).nesting.close indent =
      (program.nesting.close indent).condensed script := close_condensed indent h.headed
  have hpose := (tick_condensed rules hscript h halike hkept).2.1
  cases hline : script.line? program.cursor with
  | none =>
    have hline' : script.condensed.line? (program.condensed script).cursor = none :=
      Script.line?_eq_none_iff.mpr (Script.length_condensed_le (Script.line?_eq_none_iff.mp hline))
    simp only [dispatch?, hline, hline', Option.map_none]
  | some line =>
    have hskip := Script.isSkippable_eq_false_of_kept hline hkept
    have hline' : script.condensed.line? (program.condensed script).cursor = some line :=
      Script.line?_condensed hline hskip
    cases hclose : program.nesting.close (Script.indentOf line) with
    | loopedBack cursor nesting =>
      simp only [dispatch?, hline, hline', hskip, hclosed, hclose, Nesting.Closing.condensed,
        Nesting.Closing.map, Bool.false_eq_true, if_false, Option.map_none]
    | fellThrough nesting =>
      simp only [dispatch?, hline, hline', hskip, hclosed, hclose, Nesting.Closing.condensed,
        Nesting.Closing.map, Bool.false_eq_true, if_false, Option.map_some, Dispatch.condensed, hpose, halike.1]
      rfl

theorem dispatch?_skippable (h : script.closingIndent? program.cursor = none) :
    dispatch? rules script world program = none := by
  obtain ⟨line, hline, hskip⟩ := Script.closingIndent?_eq_none_iff.mp h
  simp only [dispatch?, hline, hskip, if_true]

end Tick

/-! ## Whole runs -/

section Run
variable (rules : Rules) (script : Script) (world : World)

/-- How many of the first `n` ticks are not at an empty line or a comment. -/
def keptTicks : Nat → Nat
  | 0 => 0
  | n + 1 => keptTicks n +
      if script.closingIndent? (stateAfter rules script world Program.start n).2.cursor = none
      then 0 else 1

/-- The statements that the first `n` ticks carry out, in order. -/
def dispatches (n : Nat) : List Dispatch :=
  (List.range n).filterMap fun i =>
    dispatch? rules script (stateAfter rules script world Program.start i).1
      (stateAfter rules script world Program.start i).2

theorem dispatches_succ (n : Nat) :
    dispatches rules script world (n + 1) = dispatches rules script world n ++
      (dispatch? rules script (stateAfter rules script world Program.start n).1
        (stateAfter rules script world Program.start n).2).toList := by
  rw [dispatches, List.range_succ, List.filterMap_append, dispatches]
  congr 1

variable {rules script world}

theorem stateAfter_succ_of_skippable {n : Nat}
    (h : script.closingIndent? (stateAfter rules script world Program.start n).2.cursor = none) :
    stateAfter rules script world Program.start (n + 1) =
      ((stateAfter rules script world Program.start n).1.grow rules.growthStep,
        (stateAfter rules script world Program.start n).2.advance) := by
  obtain ⟨line, hline, hskip⟩ := Script.closingIndent?_eq_none_iff.mp h
  rw [stateAfter_succ, tickAfter, tick_eq_passed rules _ hline hskip]
  rfl

theorem keptTicks_succ_of_skippable {n : Nat}
    (h : script.closingIndent? (stateAfter rules script world Program.start n).2.cursor = none) :
    keptTicks rules script world (n + 1) = keptTicks rules script world n := by
  rw [keptTicks, if_pos h, Nat.add_zero]

theorem keptTicks_succ_of_kept {n : Nat}
    (h : script.closingIndent? (stateAfter rules script world Program.start n).2.cursor ≠ none) :
    keptTicks rules script world (n + 1) = keptTicks rules script world n + 1 := by
  rw [keptTicks, if_neg h]

/-- Both runs are at the same place, with the bot in one pose, whenever the run of the script has
made as many ticks beside the empty lines and comments as the other. -/
theorem stateAfter_condensed (rules : Rules) (world : World) (hscript : script.HasNoSensor)
    (n : Nat) :
    (stateAfter rules script.condensed world Program.start (keptTicks rules script world n)).2 =
        (stateAfter rules script world Program.start n).2.condensed script ∧
      (stateAfter rules script world Program.start n).1.Alike
        (stateAfter rules script.condensed world Program.start
          (keptTicks rules script world n)).1 := by
  induction n with
  | zero => exact ⟨rfl, rfl, rfl⟩
  | succ n ih =>
    obtain ⟨hprogram, halike⟩ := ih
    by_cases hkept :
        script.closingIndent? (stateAfter rules script world Program.start n).2.cursor = none
    · rw [keptTicks_succ_of_skippable hkept, stateAfter_succ_of_skippable hkept, hprogram]
      refine ⟨?_, halike⟩
      simp only [Program.condensed, Program.advance, Script.keptBefore_succ_of_skippable hkept]
    · have henclosed := (reachable_stateAfter rules script world n).enclosed
      have htick := tick_condensed rules hscript henclosed halike hkept
      rw [← hprogram] at htick
      rw [keptTicks_succ_of_kept hkept]
      exact htick

theorem dispatches_condensed (hscript : script.HasNoSensor) (n : Nat) :
    dispatches rules script.condensed world (keptTicks rules script world n) =
      (dispatches rules script world n).map (Dispatch.condensed script) := by
  induction n with
  | zero => rfl
  | succ n ih =>
    rw [dispatches_succ rules script, List.map_append]
    by_cases hkept :
        script.closingIndent? (stateAfter rules script world Program.start n).2.cursor = none
    · rw [keptTicks_succ_of_skippable hkept, dispatch?_skippable rules hkept, ih]
      exact (List.append_nil _).symm
    · obtain ⟨hprogram, halike⟩ := stateAfter_condensed rules world hscript n
      have henclosed := (reachable_stateAfter rules script world n).enclosed
      rw [keptTicks_succ_of_kept hkept, dispatches_succ, ih, hprogram,
        dispatch?_condensed rules hscript henclosed halike hkept, Option.toList_map]

/-- The run of the script gets past every stretch of empty lines and comments. -/
theorem exists_kept_tick (rules : Rules) (script : Script) (world : World) (n : Nat) :
    ∃ m, keptTicks rules script world m = keptTicks rules script world n ∧
      script.closingIndent? (stateAfter rules script world Program.start m).2.cursor ≠ none := by
  by_cases hkept :
      script.closingIndent? (stateAfter rules script world Program.start n).2.cursor = none
  · have hcursor : (stateAfter rules script world Program.start (n + 1)).2.cursor =
        (stateAfter rules script world Program.start n).2.cursor + 1 := by
      rw [stateAfter_succ_of_skippable hkept]
      rfl
    obtain ⟨line, hline, -⟩ := Script.closingIndent?_eq_none_iff.mp hkept
    have hlt := Script.lt_length_of_line? hline
    obtain ⟨m, hm, hkept'⟩ := exists_kept_tick rules script world (n + 1)
    exact ⟨m, hm.trans (keptTicks_succ_of_skippable hkept), hkept'⟩
  · exact ⟨n, rfl, hkept⟩
termination_by script.length - (stateAfter rules script world Program.start n).2.cursor

theorem exists_keptTicks_eq (rules : Rules) (script : Script) (world : World) (k : Nat) :
    ∃ n, keptTicks rules script world n = k := by
  induction k with
  | zero => exact ⟨0, rfl⟩
  | succ k ih =>
    obtain ⟨n, rfl⟩ := ih
    obtain ⟨m, hm, hkept⟩ := exists_kept_tick rules script world n
    exact ⟨m + 1, by rw [keptTicks_succ_of_kept hkept, hm]⟩

theorem exhausted_condensed_iff (rules : Rules) (world : World) (hscript : script.HasNoSensor) :
    (∃ n, (tickAfter rules script world Program.start n).status = .exhausted) ↔
      ∃ n, (tickAfter rules script.condensed world Program.start n).status = .exhausted := by
  simp only [tickAfter, tick_status_eq_exhausted_iff]
  constructor
  · rintro ⟨n, hend, hnone⟩
    refine ⟨keptTicks rules script world n, ?_⟩
    rw [(stateAfter_condensed rules world hscript n).1]
    refine ⟨Script.length_condensed_le hend, ?_⟩
    simp [Program.condensed, hnone]
  · rintro ⟨k, hend, hnone⟩
    obtain ⟨n, rfl⟩ := exists_keptTicks_eq rules script world k
    obtain ⟨m, hm, hkept⟩ := exists_kept_tick rules script world n
    rw [← hm, (stateAfter_condensed rules world hscript m).1] at hend hnone
    refine ⟨m, ?_, by simpa [Program.condensed] using hnone⟩
    by_contra hlt
    obtain ⟨line, hline⟩ := Option.ne_none_iff_exists'.mp (mt Script.line?_eq_none_iff.mp hlt)
    have hskip := Script.isSkippable_eq_false_of_kept hline hkept
    have hlt' := Script.lt_length_of_line? (Script.line?_condensed hline hskip)
    exact absurd hlt' (Nat.not_lt.mpr hend)

end Run

/-- A script without sensors runs like its condensed form. Every state of its run is, at the
condensed places and with the bot in the same pose, the state that the other run has after as many
ticks as this one has made beside the empty lines and comments; this number grows by steps of at
most one and takes every value, so that every state of the other run is met, in order. Both runs
carry out the same statements on corresponding lines, with the same poses before and after each,
and either both come to an end or none does. -/
theorem condensed_run (rules : Rules) (script : Script) (world : World)
    (hscript : script.HasNoSensor) :
    (∀ n,
      (stateAfter rules script.condensed world Program.start (keptTicks rules script world n)).2 =
          (stateAfter rules script world Program.start n).2.condensed script ∧
        (stateAfter rules script.condensed world Program.start
            (keptTicks rules script world n)).1.pose =
          (stateAfter rules script world Program.start n).1.pose) ∧
      (∀ n, keptTicks rules script world n ≤ keptTicks rules script world (n + 1) ∧
        keptTicks rules script world (n + 1) ≤ keptTicks rules script world n + 1) ∧
      (∀ k, ∃ n, keptTicks rules script world n = k) ∧
      (∀ n, dispatches rules script.condensed world (keptTicks rules script world n) =
        (dispatches rules script world n).map (Dispatch.condensed script)) ∧
      ((∃ n, (tickAfter rules script world Program.start n).status = .exhausted) ↔
        ∃ n, (tickAfter rules script.condensed world Program.start n).status = .exhausted) := by
  refine ⟨?_, ?_, exists_keptTicks_eq rules script world, dispatches_condensed hscript,
    exhausted_condensed_iff rules world hscript⟩
  · intro n
    obtain ⟨hprogram, hpose, -⟩ := stateAfter_condensed rules world hscript n
    exact ⟨hprogram, hpose.symm⟩
  · intro n
    rw [keptTicks]
    split <;> omega

/-- A loop that a comment heads, an empty line opens and a comment closes ends, and so does the loop
without them, after the same statements. -/
theorem condensed_run_loop :
    let script : Script :=
      ⟨#["# row", "while bot.x == 0:", "", "    forward()", "  # column", "left()"]⟩
    script.HasNoSensor ∧
      dispatches Rules.default script.condensed Rules.default.freshWorld
          (keptTicks Rules.default script Rules.default.freshWorld 8) =
        (dispatches Rules.default script Rules.default.freshWorld 8).map
          (Dispatch.condensed script) ∧
      ∃ n, (tickAfter Rules.default script.condensed Rules.default.freshWorld
        Program.start n).status = .exhausted := by
  intro script
  have hscript : script.HasNoSensor := by
    have hwhile : Statement.classify "while bot.x == 0:" = .whileLoop (.atColumn 0) := by
      decide +kernel
    intro line hmem condition hguard
    simp only [script, List.mem_toArray, List.mem_cons, List.not_mem_nil, or_false] at hmem
    rcases hmem with rfl | rfl | rfl | rfl | rfl | rfl
    · cases hguard
    · rw [hwhile] at hguard
      cases hguard
      rfl
    · cases hguard
    · cases hguard
    · cases hguard
    · cases hguard
  obtain ⟨-, -, -, hdispatches, hexhausted⟩ :=
    condensed_run Rules.default script Rules.default.freshWorld hscript
  exact ⟨hscript, hdispatches 8, hexhausted.mp ⟨8, by decide +kernel⟩⟩

end FarmScript
