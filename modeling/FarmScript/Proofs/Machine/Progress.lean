import FarmScript.Proofs.Machine.Endless

/-! # A tick moves the program or the script is exhausted

No tick stands still, whatever the open blocks look like: they need not be those around the next
line, nor have headers in the script. The program is where it was after a tick exactly when the tick
finds the script exhausted (`tick_program_eq_iff`), and then every further tick finds it exhausted
again. What has to be looked at is closing, which takes blocks off and may put one back: it never
puts back what it took (`close_loopedBack_ne`).
-/

namespace FarmScript
set_option autoImplicit false

theorem isExhausted_iff {script : Script} {program : Program} :
    program.isExhausted script = true ↔ script.length ≤ program.cursor ∧ program.nesting = [] := by
  simp [Program.isExhausted]

theorem Nesting.close_loopedBack_ne {indent cursor : Nat} {nesting nesting' : Nesting}
    (h : close indent nesting = .loopedBack cursor nesting') : nesting' ≠ nesting := by
  obtain ⟨done, block, outer, rfl, -, -, hloop⟩ := exists_of_close_eq_loopedBack h
  intro hsame
  have hlength := congrArg List.length hsame
  rw [List.length_append, List.length_cons] at hlength
  rcases hloop with ⟨-, -, rfl⟩ | ⟨iteration, target, hkind, hlt, -, rfl⟩
  · omega
  · -- with no block left on the way, the loop is put back with one more pass on its account
    obtain rfl : done = [] := by
      rw [List.length_cons] at hlength
      exact List.eq_nil_of_length_eq_zero (by omega)
    obtain ⟨hblock, -⟩ := List.cons.inj hsame
    have hcount : Block.Kind.forLoop (iteration + 1) target = .forLoop iteration target :=
      (congrArg Block.kind hblock).trans hkind
    have hpasses := congrArg UInt32.toNat (Block.Kind.forLoop.inj hcount).1
    rw [toNat_add_one_of_lt hlt] at hpasses
    omega

theorem Move.next_ne {script : Script} {world : World} {program next : Program}
    (h : Move script world program next) (hlive : program.isExhausted script = false) :
    next ≠ program := by
  intro hsame
  have hcursor := congrArg Program.cursor hsame
  have hnesting := congrArg Program.nesting hsame
  cases h with
  | exhausted hend hnone hnext =>
    rw [isExhausted_iff.mpr ⟨hend, hnone⟩] at hlive
    cases hlive
  | passed hline hskip hnext =>
    rw [hnext] at hcursor
    exact absurd hcursor (Nat.succ_ne_self _)
  | loopedBack hindent hclose hnext =>
    rw [hnext] at hnesting
    exact Nesting.close_loopedBack_ne hclose hnesting
  | closed hend hopen hclose hnext =>
    rw [hnext] at hnesting
    exact hopen hnesting.symm
  | advanced hline hskip hclose hkind hnext =>
    rw [hnext] at hcursor
    exact absurd hcursor (Nat.succ_ne_self _)
  | entered hline hskip hclose hkind hguard hnext =>
    rw [hnext] at hcursor
    exact absurd hcursor (Nat.succ_ne_self _)
  | @skipped line nesting kind hline hskip hclose hkind hguard hnext =>
    -- the end of a block is below its header, which is a line of the script
    have hlt := Script.lt_blockEnd (Script.indentOf line) (Script.lt_length_of_line? hline)
    rw [hnext] at hcursor
    exact absurd hcursor (Nat.ne_of_gt hlt)

section Tick
variable (rules : Rules) (script : Script) (world : World) (program : Program)

theorem tick_program_eq_iff :
    (tick rules script world program).program = program ↔ program.isExhausted script = true := by
  constructor
  · intro hsame
    by_contra hlive
    exact (tick_move rules script world program).next_ne (Bool.eq_false_iff.mpr hlive) hsame
  · intro hexhausted
    obtain ⟨hend, hnone⟩ := isExhausted_iff.mp hexhausted
    rw [tick_eq_exhausted rules world hend hnone]
    rfl

theorem tick_status_eq_running (h : (tick rules script world program).status ≠ .exhausted) :
    (tick rules script world program).status = .running := by
  cases hstatus : (tick rules script world program).status with
  | running => rfl
  | exhausted => exact absurd hstatus h

end Tick

theorem eq_of_leads_of_isExhausted {script : Script} {program later : Program}
    (h : program.isExhausted script = true)
    (hlater : Relation.ReflTransGen (Program.Next script) program later) : later = program := by
  induction hlater with
  | refl => rfl
  | tail _ hnext ih =>
    obtain ⟨rules, world, rfl⟩ := hnext
    rw [ih]
    exact (tick_program_eq_iff rules script world program).mpr h

/-- A tick finds the script exhausted exactly when the program is, and exactly when it leaves the
program as it was; in every other case the script goes on, with another next line or with other
blocks open. So once a tick has found the script exhausted, each later one does, whatever farm and
rules it finds, and does nothing but let the field grow. -/
theorem tick_stands_still_iff_exhausted (rules : Rules) (script : Script) (world : World)
    (program : Program) :
    let t := tick rules script world program
    (t.status = .exhausted ↔ program.isExhausted script = true) ∧
      (program.isExhausted script = true ↔ t.program = program) ∧
      (t.status ≠ .exhausted → t.status = .running ∧
        (t.program.cursor ≠ program.cursor ∨ t.program.nesting ≠ program.nesting)) ∧
      (t.status = .exhausted →
        ∀ later, Relation.ReflTransGen (Program.Next script) t.program later →
          later = program ∧ ∀ rules' world', tick rules' script world' later =
            { Tick.moveTo (world'.grow rules'.growthStep) program with status := .exhausted }) := by
  intro t
  have hstatus : t.status = .exhausted ↔ program.isExhausted script = true := by
    rw [isExhausted_iff]
    exact tick_status_eq_exhausted_iff rules script world program
  have hprogram := tick_program_eq_iff rules script world program
  refine ⟨hstatus, hprogram.symm, ?_, ?_⟩
  · intro hlive
    refine ⟨tick_status_eq_running rules script world program hlive, ?_⟩
    by_contra hsame
    obtain ⟨hcursor, hnesting⟩ := not_or.mp hsame
    have hstill : t.program = program :=
      congrArg₂ Program.mk (not_not.mp hcursor) (not_not.mp hnesting)
    exact hlive (hstatus.mpr (hprogram.mp hstill))
  · intro hexhausted later hlater
    have hdone := hstatus.mp hexhausted
    rw [show t.program = program from hprogram.mpr hdone] at hlater
    obtain rfl := eq_of_leads_of_isExhausted hdone hlater
    obtain ⟨hend, hnone⟩ := isExhausted_iff.mp hdone
    exact ⟨rfl, fun rules' world' => tick_eq_exhausted rules' world' hend hnone⟩

/-- Blocks that no script could have opened, with headers beyond its end and the outer one indented
deeper: the next tick moves all the same. And behind a block that was skipped there is nothing left
to do, in this tick and in every later one. -/
theorem tick_stands_still_iff_exhausted_after_skipping :
    let script : Script := ⟨#["if False:", "    plant()"]⟩
    let rules := Rules.default
    let foreign : Program := ⟨7, [⟨.forLoop 0 2, 40, 3⟩, ⟨.whileLoop, 90, 5⟩]⟩
    let t := tick rules script rules.freshWorld ⟨2, []⟩
    (tick rules script rules.freshWorld foreign).program ≠ foreign ∧ t.status = .exhausted ∧
      ∀ n, (tickAfter rules script t.world t.program n).status = .exhausted := by
  intro script rules foreign t
  obtain ⟨-, hforeign, -, -⟩ :=
    tick_stands_still_iff_exhausted rules script rules.freshWorld foreign
  obtain ⟨hstatus, -, -, hlater⟩ :=
    tick_stands_still_iff_exhausted rules script rules.freshWorld ⟨2, []⟩
  have hexhausted : t.status = .exhausted := hstatus.mpr (by decide)
  refine ⟨fun hsame => absurd (hforeign.mpr hsame) (by decide), hexhausted, fun n => ?_⟩
  have hleads := leads_stateAfter rules script t.world t.program n
  rw [tickAfter, (hlater hexhausted _ hleads).2]

end FarmScript
