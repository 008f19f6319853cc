import FarmScript.Proofs.Machine.Stuttering
import Mathlib.Logic.Relation

/-! # Loops without end

A `while` loop whose condition is always true is never left. Its block is closed at the end of
every pass and opened again by the next tick, so what every tick keeps is a choice
(`Program.InLoop`): the block is open on top of the same outer blocks, or the program is back at
the header with just these outer blocks open.

Closing blocks never gets past a `while` block (`close_append_whileLoop`): it stops inside, or it
goes back to the header.
-/

namespace FarmScript
set_option autoImplicit false

/-- Whether one tick leads from a program to the next, on some farm and by some rules. -/
def Program.Next (script : Script) (program next : Program) : Prop :=
  ∃ rules world, next = (tick rules script world program).program

theorem leads_stateAfter (rules : Rules) (script : Script) (world : World) (program : Program)
    (n : Nat) :
    Relation.ReflTransGen (Program.Next script) program
      (stateAfter rules script world program n).2 := by
  induction n with
  | zero => exact .refl
  | succ n ih => exact ih.tail ⟨rules, _, rfl⟩

theorem Program.Enclosed.leads {script : Script} {program later : Program}
    (h : program.Enclosed script)
    (hlater : Relation.ReflTransGen (Program.Next script) program later) :
    later.Enclosed script := by
  induction hlater with
  | refl => exact h
  | tail _ hnext ih =>
    obtain ⟨rules, world, rfl⟩ := hnext
    exact ih.tick rules world

theorem exists_of_dispatch? {rules : Rules} {script : Script} {world : World} {program : Program}
    {dispatch : Dispatch} (h : dispatch? rules script world program = some dispatch) :
    ∃ line rest, script.line? program.cursor = some line ∧ Script.isSkippable line = false ∧
      program.nesting.close (Script.indentOf line) = .fellThrough rest ∧
      dispatch.line = program.cursor := by
  unfold dispatch? at h
  split at h
  · cases h
  · next line hline =>
    split at h
    · cases h
    · next hskip =>
      split at h
      · cases h
      · next rest hclose =>
        cases h
        exact ⟨line, rest, hline, Bool.eq_false_iff.mpr hskip, hclose, rfl⟩

/-! ## Closing blocks around a loop -/

theorem Nesting.close_append_whileLoop (indent : Nat) (inner : Nesting) {block : Block}
    (outer : Nesting) (hkind : block.kind = .whileLoop) :
    close indent (inner ++ block :: outer) = .loopedBack block.line outer ∨
      (∃ cursor inner',
        close indent (inner ++ block :: outer) = .loopedBack cursor (inner' ++ block :: outer)) ∨
      ∃ inner',
        close indent (inner ++ block :: outer) = .fellThrough (inner' ++ block :: outer) := by
  induction inner with
  | nil =>
    by_cases hle : indent ≤ block.indent
    · exact .inl (close_whileLoop outer hkind hle)
    · have hlt : block.indent < indent := by omega
      exact .inr (.inr ⟨[], close_of_deeper (by simpa using hlt)⟩)
  | cons first inner ih =>
    by_cases hle : indent ≤ first.indent
    · cases hdone : first.isDone with
      | true =>
        rw [List.cons_append, close_cons_leftBy _ ⟨hdone, hle⟩]
        exact ih
      | false =>
        rcases kind_cases_of_not_isDone hdone with hwhile | ⟨iteration, target, hfor, hlt⟩
        · exact .inr (.inl ⟨first.line, inner, close_whileLoop _ hwhile hle⟩)
        · exact .inr (.inl ⟨first.line + 1,
            { first with kind := .forLoop (iteration + 1) target } :: inner,
            close_forLoop _ hfor hle hlt⟩)
    · have hlt : first.indent < indent := by omega
      exact .inr (.inr ⟨first :: inner, close_of_deeper (by simpa using hlt)⟩)

theorem Nesting.exists_of_close_append_whileLoop {indent : Nat} {inner outer rest : Nesting}
    {block : Block} (hkind : block.kind = .whileLoop)
    (hclose : close indent (inner ++ block :: outer) = .fellThrough rest) :
    ∃ inner', rest = inner' ++ block :: outer := by
  rcases close_append_whileLoop indent inner outer hkind with h | ⟨cursor, inner', h⟩ | ⟨inner', h⟩
  · rw [h] at hclose
    cases hclose
  · rw [h] at hclose
    cases hclose
  · rw [h] at hclose
    cases hclose
    exact ⟨inner', rfl⟩

/-! ## Inside a loop -/

/-- Whether a program is inside the block of a loop, or back at the header of the loop with only
the blocks around it open. -/
def Program.InLoop (block : Block) (outer : Nesting) (program : Program) : Prop :=
  (∃ inner, program.nesting = inner ++ block :: outer) ∨ program = ⟨block.line, outer⟩

/-- Whether a block is that of a `while` loop that always goes on. -/
def Block.IsEndless (script : Script) (block : Block) : Prop :=
  block.kind = .whileLoop ∧ ∃ line, script.line? block.line = some line ∧
    Script.indentOf line = block.indent ∧ Statement.classify line = .whileLoop (.literal true)

section Endless
variable {script : Script} {block : Block} {outer : Nesting} {program : Program}
  (hendless : block.IsEndless script)
include hendless

theorem Block.IsEndless.line_lt : block.line < script.length := by
  obtain ⟨-, line, hline, -, -⟩ := hendless
  exact Script.lt_length_of_line? hline

/-- The tick at the header opens the block again. -/
theorem tick_endless_header (rules : Rules) (world : World)
    (houter : ∀ b ∈ outer, b.indent < block.indent) :
    (tick rules script world ⟨block.line, outer⟩).program = ⟨block.line + 1, block :: outer⟩ := by
  obtain ⟨kind, header, indent⟩ := block
  obtain ⟨rfl, line, hline, rfl, hwhile⟩ := hendless
  have hskip : Script.isSkippable line = false :=
    Script.isSkippable_eq_false_of_isSome (by rw [hwhile]; rfl)
  have hclose : outer.close (Script.indentOf line) = .fellThrough outer :=
    Nesting.close_of_deeper fun b hb => houter b (List.mem_of_mem_head? hb)
  rw [tick_eq_dispatched rules world hline hskip hclose, dispatch_program, hwhile]
  rfl

theorem Program.InLoop.tick (rules : Rules) (world : World)
    (houter : ∀ b ∈ outer, b.indent < block.indent) (h : program.InLoop block outer) :
    (FarmScript.tick rules script world program).program.InLoop block outer := by
  rcases h with ⟨inner, hnesting⟩ | rfl
  · -- inside the block, closing stops inside or goes back to the header
    have hfell {indent : Nat} {rest : Nesting} (hclose : program.nesting.close indent =
        .fellThrough rest) : ∃ inner', rest = inner' ++ block :: outer := by
      rw [hnesting] at hclose
      exact Nesting.exists_of_close_append_whileLoop hendless.1 hclose
    cases tick_move rules script world program with
    | exhausted hend hnone hnext =>
      rw [hnesting] at hnone
      simp at hnone
    | passed hline hskip hnext => exact .inl ⟨inner, by rw [hnext]; exact hnesting⟩
    | @loopedBack indent cursor nesting hindent hclose hnext =>
      rw [hnext]
      rw [hnesting] at hclose
      rcases Nesting.close_append_whileLoop indent inner outer hendless.1 with
        hback | ⟨cursor', inner', hback⟩ | ⟨inner', hback⟩
      · cases hback.symm.trans hclose
        exact .inr rfl
      · cases hback.symm.trans hclose
        exact .inl ⟨inner', rfl⟩
      · cases hback.symm.trans hclose
    | closed hend hopen hclose hnext =>
      obtain ⟨inner', hnil⟩ := hfell hclose
      simp at hnil
    | advanced hline hskip hclose hkind hnext =>
      obtain ⟨inner', rfl⟩ := hfell hclose
      exact .inl ⟨inner', by rw [hnext]⟩
    | entered hline hskip hclose hkind hguard hnext =>
      obtain ⟨inner', rfl⟩ := hfell hclose
      exact .inl ⟨_ :: inner', by rw [hnext]; rfl⟩
    | skipped hline hskip hclose hkind hguard hnext =>
      obtain ⟨inner', rfl⟩ := hfell hclose
      exact .inl ⟨inner', by rw [hnext]⟩
  · rw [tick_endless_header hendless rules world houter]
    exact .inl ⟨[], rfl⟩

theorem Program.InLoop.leads {later : Program} (houter : ∀ b ∈ outer, b.indent < block.indent)
    (h : program.InLoop block outer)
    (hlater : Relation.ReflTransGen (Program.Next script) program later) :
    later.InLoop block outer := by
  induction hlater with
  | refl => exact h
  | tail _ hnext ih =>
    obtain ⟨rules, world, rfl⟩ := hnext
    exact ih.tick hendless rules world houter

theorem Program.InLoop.status_ne_exhausted (rules : Rules) (world : World)
    (h : program.InLoop block outer) :
    (FarmScript.tick rules script world program).status ≠ .exhausted := by
  intro hstatus
  obtain ⟨hend, hnone⟩ := (tick_status_eq_exhausted_iff rules script world program).mp hstatus
  rcases h with ⟨inner, hnesting⟩ | rfl
  · rw [hnesting] at hnone
    simp at hnone
  · have hlt := hendless.line_lt
    exact absurd hend (Nat.not_le.mpr hlt)

theorem Program.InLoop.cursor_le (henclosed : program.Enclosed script)
    (h : program.InLoop block outer) :
    program.cursor ≤ script.blockEnd block.line block.indent := by
  rcases h with ⟨inner, hnesting⟩ | rfl
  · exact (henclosed.inside block (by simp [hnesting])).2
  · exact Nat.le_of_lt (Script.lt_blockEnd block.indent hendless.line_lt)

/-- A line that is carried out is inside the block: the line behind it sends the loop back. -/
theorem Program.InLoop.line_lt_of_dispatch? {rules : Rules} {world : World} {dispatch : Dispatch}
    (henclosed : program.Enclosed script) (h : program.InLoop block outer)
    (hdispatch : dispatch? rules script world program = some dispatch) :
    dispatch.line < script.blockEnd block.line block.indent := by
  obtain ⟨line, rest, hline, hskip, hclose, hcursor⟩ := exists_of_dispatch? hdispatch
  rw [hcursor]
  rcases h with ⟨inner, hnesting⟩ | rfl
  · have hindent := Script.closingIndent?_of_line hline hskip
    have hdeeper := (henclosed.fallThrough hindent hclose).2
    rw [hnesting] at hclose
    obtain ⟨inner', rfl⟩ := Nesting.exists_of_close_append_whileLoop hendless.1 hclose
    have hopen := Script.not_closes_of_lt hindent (hdeeper block (by simp))
    exact henclosed.lt_blockEnd (by simp [hnesting]) hopen
  · exact Script.lt_blockEnd block.indent hendless.line_lt

end Endless

/-- Once a program that ticks lead to has entered a `while` loop whose condition is the literal
`True`, it never gets out, whatever farms and rules the further ticks find: no tick finds the
script exhausted; the block of the loop is open on top of the same blocks as before, or the next
line is the header with exactly these blocks open; and the next line is never further down than the
end of the block, where no line is ever carried out. -/
theorem while_true_never_ends {script : Script} {program later : Program}
    (hreachable : Program.Reachable script program) {inner outer : Nesting} {block : Block}
    (hnesting : program.nesting = inner ++ block :: outer) (hkind : block.kind = .whileLoop)
    {line : String} (hline : script.line? block.line = some line)
    (htrue : Statement.classify line = .whileLoop (.literal true))
    (hlater : Relation.ReflTransGen (Program.Next script) program later) :
    (∀ rules world, (tick rules script world later).status ≠ .exhausted) ∧
      ((∃ inner', later.nesting = inner' ++ block :: outer) ∨
        later.cursor = block.line ∧ later.nesting = outer) ∧
      later.cursor ≤ script.blockEnd block.line (Script.indentOf line) ∧
      ∀ rules world dispatch, dispatch? rules script world later = some dispatch →
        dispatch.line < script.blockEnd block.line (Script.indentOf line) := by
  have henclosed := hreachable.enclosed
  have hmem : block ∈ program.nesting := by simp [hnesting]
  have hindent : Script.indentOf line = block.indent := by
    obtain ⟨line', hline', hindent, -⟩ := henclosed.headed block hmem
    cases hline.symm.trans hline'
    exact hindent
  have hendless : block.IsEndless script := ⟨hkind, line, hline, hindent, htrue⟩
  have houter : ∀ b ∈ outer, b.indent < block.indent := by
    have hordered := henclosed.ordered
    rw [hnesting] at hordered
    obtain ⟨-, hordered, -⟩ := List.pairwise_append.mp hordered
    exact fun b hb => ((List.pairwise_cons.mp hordered).1 b hb).2
  have hin : later.InLoop block outer :=
    Program.InLoop.leads hendless houter (.inl ⟨inner, hnesting⟩) hlater
  have henclosed' := henclosed.leads hlater
  rw [hindent]
  refine ⟨fun rules world => hin.status_ne_exhausted hendless rules world, ?_,
    hin.cursor_le hendless henclosed', ?_⟩
  · rcases hin with hopen | rfl
    · exact .inl hopen
    · exact .inr ⟨rfl, rfl⟩
  · intro rules world dispatch hdispatch
    exact hin.line_lt_of_dispatch? hendless henclosed' hdispatch

/-- A loop without end inside another loop, with a loop and a block that is skipped inside. Whatever
is left of the outer loop, the last line is never carried out. -/
theorem while_true_never_ends_nested :
    let script : Script := ⟨#["for i in range(2):", "  while True:", "    # turn", "",
      "    for i in range(3):", "        left()", "    if False:", "        forward()", "plant()"]⟩
    let program : Program := ⟨2, [⟨.whileLoop, 1, 2⟩, ⟨.forLoop 0 2, 0, 0⟩]⟩
    Program.Reachable script program ∧
      ∀ rules world n, (stateAfter rules script world program n).2.cursor ≤ 8 ∧
        (tickAfter rules script world program n).status ≠ .exhausted := by
  intro script program
  have hreachable : Program.Reachable script program := by
    have hstate : (stateAfter Rules.default script Rules.default.freshWorld Program.start 2).2 =
        program := by decide +kernel
    exact hstate ▸ reachable_stateAfter Rules.default script Rules.default.freshWorld 2
  have hnesting : program.nesting = [] ++ ⟨.whileLoop, 1, 2⟩ :: [⟨.forLoop 0 2, 0, 0⟩] := rfl
  have hline : script.line? 1 = some "  while True:" := rfl
  have hend : script.blockEnd 1 (Script.indentOf "  while True:") = 8 := by decide +kernel
  refine ⟨hreachable, fun rules world n => ?_⟩
  obtain ⟨hstatus, -, hcursor, -⟩ := while_true_never_ends hreachable hnesting rfl hline
    (by decide +kernel) (leads_stateAfter rules script world program n)
  exact ⟨hend ▸ hcursor, hstatus rules _⟩

end FarmScript
