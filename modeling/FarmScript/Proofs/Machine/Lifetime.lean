import FarmScript.Proofs.Machine.Passes

/-! # The life of a block

A tick takes blocks off the nesting (`Program.popped`), leaves the others there (`Program.kept`) and
puts at most one block on top of them: the block of a header, or the block of a `for` loop that it
has just taken off, with one more pass on its account. That this is all that happens to the nesting
is `popped_append_kept` together with `exists_pushed`. So every block that is taken off was put
there by an earlier tick and has stayed in its place in between (`IsRun.exists_push`).

Closing knows nothing of where a block ends, and the scan for the end of a block knows nothing of
closing. They agree: a block is taken off only when the next line is the one that a header whose
condition fails would have gone to (`Enclosed.cursor_of_popped`), and as long as it stays every line
that is carried out is above that line (`Enclosed.lt_blockEnd_of_kept`).
-/

namespace FarmScript
set_option autoImplicit false

/-! ## Closing -/

/-- Whether a block is that of a `for` loop which has been sent back once more than `before`. -/
def Block.IsNextPassOf (block before : Block) : Prop :=
  ∃ iteration target, before.kind = .forLoop iteration target ∧
    iteration.toNat + 1 < target.toNat ∧
    block = { before with kind := .forLoop (iteration + 1) target }

namespace Nesting

/-- The blocks that closing by `indent` takes off, the innermost first: those that it leaves for
good, and the loop that it sends back. -/
def closed (indent : Nat) : Nesting → Nesting
  | [] => []
  | block :: outer =>
    if block.isClosedBy indent then
      block :: if block.isDone then closed indent outer else []
    else []

theorem closed_append_leftBy {indent : Nat} (done rest : Nesting)
    (h : ∀ block ∈ done, block.LeftBy indent) :
    closed indent (done ++ rest) = done ++ closed indent rest := by
  induction done with
  | nil => rfl
  | cons block done ih =>
    obtain ⟨hdone, hle⟩ := h block List.mem_cons_self
    have hrest := ih fun b hb => h b (List.mem_cons_of_mem block hb)
    simp [closed, Block.isClosedBy, hdone, hle, hrest]

theorem closed_of_deeper {indent : Nat} {nesting : Nesting}
    (h : ∀ block ∈ nesting.head?, block.indent < indent) : closed indent nesting = [] := by
  cases nesting with
  | nil => rfl
  | cons block outer =>
    have hlt : block.indent < indent := h block rfl
    simp [closed, Block.isClosedBy, Nat.not_le.mpr hlt]

theorem closed_cons_of_loop {indent : Nat} {block : Block} (outer : Nesting)
    (hloop : block.isDone = false) (hle : indent ≤ block.indent) :
    closed indent (block :: outer) = [block] := by
  simp [closed, Block.isClosedBy, hloop, hle]

theorem eq_closed_append {indent : Nat} {nesting rest : Nesting}
    (h : close indent nesting = .fellThrough rest) : nesting = closed indent nesting ++ rest := by
  obtain ⟨done, rfl, hdone, hrest⟩ := exists_of_close_eq_fellThrough h
  rw [closed_append_leftBy done rest hdone, closed_of_deeper hrest, List.append_nil]

/-- Closing that sends a loop back takes its block off and, if it is a `for` loop, puts it on again
with one more pass on its account. -/
theorem exists_eq_closed_append {indent cursor : Nat} {nesting nesting' : Nesting}
    (h : close indent nesting = .loopedBack cursor nesting') :
    ∃ (again : Option Block) (outer : Nesting),
      nesting = closed indent nesting ++ outer ∧ nesting' = again.toList ++ outer ∧
        ∀ block ∈ again, ∃ before ∈ closed indent nesting, block.IsNextPassOf before := by
  obtain ⟨done, block, outer, rfl, hdone, hle, hloop⟩ := exists_of_close_eq_loopedBack h
  have hagain : block.isDone = false := by
    rcases hloop with ⟨hkind, -, -⟩ | ⟨iteration, target, hkind, hlt, -, -⟩
    · simp [Block.isDone, hkind]
    · simpa [Block.isDone, hkind] using hlt
  have hclosed : closed indent (done ++ block :: outer) = done ++ [block] := by
    rw [closed_append_leftBy done _ hdone, closed_cons_of_loop outer hagain hle]
  have hsplit : done ++ block :: outer = closed indent (done ++ block :: outer) ++ outer := by
    simp [hclosed]
  rcases hloop with ⟨-, -, rfl⟩ | ⟨iteration, target, hkind, hlt, -, rfl⟩
  · exact ⟨none, nesting', hsplit, rfl, by simp⟩
  · refine ⟨some { block with kind := .forLoop (iteration + 1) target }, outer, hsplit, rfl, ?_⟩
    rintro _ ⟨⟩
    exact ⟨block, by simp [hclosed], iteration, target, hkind, hlt, rfl⟩

theorem closed_isPrefix (indent : Nat) (nesting : Nesting) : closed indent nesting <+: nesting := by
  induction nesting with
  | nil => exact List.prefix_rfl
  | cons block outer ih =>
    unfold closed
    split
    · split
      · exact List.cons_prefix_cons.mpr ⟨rfl, ih⟩
      · exact ⟨outer, rfl⟩
    · exact List.nil_prefix

theorem indent_le_of_mem_closed {indent : Nat} {nesting : Nesting} {block : Block}
    (h : block ∈ closed indent nesting) : indent ≤ block.indent := by
  induction nesting with
  | nil => cases h
  | cons first outer ih =>
    unfold closed at h
    split at h
    · next hclosed =>
      rcases List.mem_cons.mp h with rfl | h
      · simpa [Block.isClosedBy] using hclosed
      · split at h
        · exact ih h
        · cases h
    · cases h

end Nesting

/-! ## Ticks -/

namespace Program

/-- The blocks that the next tick takes off the nesting. -/
def popped (script : Script) (program : Program) : Nesting :=
  match script.closingIndent? program.cursor with
  | none => []
  | some indent => program.nesting.closed indent

/-- The blocks that the next tick leaves on the nesting. -/
def kept (script : Script) (program : Program) : Nesting :=
  program.nesting.drop (program.popped script).length

theorem popped_append_kept (script : Script) (program : Program) :
    program.popped script ++ program.kept script = program.nesting := by
  have hpopped : program.popped script <+: program.nesting := by
    unfold popped
    split
    · exact List.nil_prefix
    · exact Nesting.closed_isPrefix _ _
  exact List.prefix_iff_eq_append.mp hpopped

variable {script : Script} {program : Program}

theorem popped_of_indent {indent : Nat}
    (hindent : script.closingIndent? program.cursor = some indent) :
    program.popped script = program.nesting.closed indent := by
  simp only [popped, hindent]

theorem kept_of_indent {indent : Nat} {rest : Nesting}
    (hindent : script.closingIndent? program.cursor = some indent)
    (hnesting : program.nesting = program.nesting.closed indent ++ rest) :
    program.kept script = rest := by
  have hkept := (popped_append_kept script program).trans hnesting
  rw [popped_of_indent hindent] at hkept
  exact List.append_cancel_left hkept

theorem kept_of_skippable {line : String} (hline : script.line? program.cursor = some line)
    (hskip : Script.isSkippable line = true) : program.kept script = program.nesting := by
  simp [kept, popped, Script.closingIndent?, hline, hskip]

theorem kept_of_fellThrough {indent : Nat} {rest : Nesting}
    (hindent : script.closingIndent? program.cursor = some indent)
    (hclose : program.nesting.close indent = .fellThrough rest) : program.kept script = rest :=
  kept_of_indent hindent (Nesting.eq_closed_append hclose)

/-- A tick puts at most one block on top of those that it keeps: the block of the header it is at,
or that of a `for` loop which it has taken off. -/
theorem exists_pushed (script : Script) (program : Program) (rules : Rules) (world : World) :
    ∃ pushed : Option Block,
      (tick rules script world program).program.nesting =
          pushed.toList ++ program.kept script ∧
        ∀ block ∈ pushed, block.line = program.cursor ∨
          ∃ before ∈ program.popped script, block.IsNextPassOf before := by
  cases tick_move rules script world program with
  | exhausted hend hnone hnext =>
    refine ⟨none, ?_, by simp⟩
    rw [hnext, kept, hnone, List.drop_nil]
    rfl
  | passed hline hskip hnext =>
    refine ⟨none, ?_, by simp⟩
    rw [hnext, kept_of_skippable hline hskip]
    rfl
  | loopedBack hindent hclose hnext =>
    obtain ⟨again, outer, hnesting, hagain, hpass⟩ := Nesting.exists_eq_closed_append hclose
    refine ⟨again, ?_, fun block hmem => .inr ?_⟩
    · rw [hnext, kept_of_indent hindent hnesting]
      exact hagain
    · rw [popped_of_indent hindent]
      exact hpass block hmem
  | closed hend hopen hclose hnext =>
    refine ⟨none, ?_, by simp⟩
    rw [hnext, kept_of_fellThrough (Script.closingIndent?_of_length_le hend) hclose]
    rfl
  | advanced hline hskip hclose hkind hnext =>
    refine ⟨none, ?_, by simp⟩
    rw [hnext, kept_of_fellThrough (Script.closingIndent?_of_line hline hskip) hclose]
    rfl
  | @entered line nesting kind hline hskip hclose hkind hguard hnext =>
    refine ⟨some ⟨kind, program.cursor, Script.indentOf line⟩, ?_, ?_⟩
    · rw [hnext, kept_of_fellThrough (Script.closingIndent?_of_line hline hskip) hclose]
      rfl
    · rintro _ ⟨⟩
      exact .inl rfl
  | skipped hline hskip hclose hkind hguard hnext =>
    refine ⟨none, ?_, by simp⟩
    rw [hnext, kept_of_fellThrough (Script.closingIndent?_of_line hline hskip) hclose]
    rfl

theorem mem_of_mem_popped {block : Block} (h : block ∈ program.popped script) :
    block ∈ program.nesting := by
  rw [← popped_append_kept script program]
  exact List.mem_append_left _ h

theorem Enclosed.cursor_of_popped (h : program.Enclosed script) {block : Block}
    (hpopped : block ∈ program.popped script) :
    program.cursor = script.blockEnd block.line block.indent := by
  have hcloses : script.Closes block.indent program.cursor := by
    unfold popped at hpopped
    split at hpopped
    · cases hpopped
    · next indent hindent => exact ⟨indent, hindent, Nesting.indent_le_of_mem_closed hpopped⟩
  obtain ⟨hafter, hbefore⟩ := h.inside block (mem_of_mem_popped hpopped)
  exact Nat.le_antisymm hbefore (Script.blockEnd_le_of_closes hafter hcloses)

theorem Enclosed.lt_blockEnd_of_kept (h : program.Enclosed script) {block : Block}
    (hkept : block ∈ program.kept script) {rules : Rules} {world : World} {dispatch : Dispatch}
    (hdispatch : dispatch? rules script world program = some dispatch) :
    dispatch.line < script.blockEnd block.line block.indent := by
  obtain ⟨line, rest, hline, hskip, hclose, hcursor⟩ := exists_of_dispatch? hdispatch
  have hindent := Script.closingIndent?_of_line hline hskip
  have hdeeper := (h.fallThrough hindent hclose).2
  rw [kept_of_fellThrough hindent hclose] at hkept
  have hmem : block ∈ program.nesting := by
    rw [Nesting.eq_closed_append hclose]
    exact List.mem_append_right _ hkept
  rw [hcursor]
  exact h.lt_blockEnd hmem (Script.not_closes_of_lt hindent (hdeeper block hkept))

end Program

/-! ## Headers whose condition fails -/

theorem Statement.isSome_blockKind?_of_not_entered {statement : Statement} {world : World}
    (h : statement.isEntered world = false) : statement.blockKind?.isSome = true := by
  cases statement with
  | whileLoop condition => rfl
  | ifThen condition => rfl
  | forLoop count => rfl
  | elseThen => rfl
  | blank => cases h
  | call word => cases h
  | assignment => cases h
  | noOp => cases h

theorem cursor_tick_of_not_entered (rules : Rules) {script : Script} (world : World)
    {program : Program} {line : String} {rest : Nesting}
    (hline : script.line? program.cursor = some line)
    (hclose : program.nesting.close (Script.indentOf line) = .fellThrough rest)
    (hguard : (Statement.classify line).isEntered (world.grow rules.growthStep) = false) :
    (tick rules script world program).program.cursor =
      script.blockEnd program.cursor (Script.indentOf line) := by
  have hkind := Statement.isSome_blockKind?_of_not_entered hguard
  have hskip := Script.isSkippable_eq_false_of_isSome hkind
  obtain ⟨kind, hkind⟩ := Option.isSome_iff_exists.mp hkind
  rw [tick_eq_dispatched rules world hline hskip hclose, dispatch_program]
  simp [hkind, hguard, Program.skip]

/-! ## Runs -/

theorem IsRun.exists_push {script : Script} {programs : Nat → Program} (h : IsRun script programs)
    {m : Nat} {inner outer : Nesting} {block : Block}
    (hnesting : (programs m).nesting = inner ++ block :: outer) :
    ∃ n < m, (programs (n + 1)).nesting = block :: outer ∧ (programs n).kept script = outer ∧
      ∀ i, n < i → i < m → ∃ inner', (programs i).kept script = inner' ++ block :: outer := by
  induction m generalizing inner with
  | zero =>
    rw [h.start] at hnesting
    exact absurd hnesting.symm (by simp [Program.start])
  | succ m ih =>
    -- the block was put there by the last tick, or kept by it and put there before
    have hearlier {inner' : Nesting} (hkept : (programs m).kept script = inner' ++ block :: outer) :
        ∃ n < m + 1, (programs (n + 1)).nesting = block :: outer ∧
          (programs n).kept script = outer ∧ ∀ i, n < i → i < m + 1 →
            ∃ inner', (programs i).kept script = inner' ++ block :: outer := by
      have hbefore := Program.popped_append_kept script (programs m)
      rw [hkept, ← List.append_assoc] at hbefore
      obtain ⟨n, hn, hpush, houter, hstay⟩ := ih hbefore.symm
      refine ⟨n, Nat.lt_succ_of_lt hn, hpush, houter, fun i hlow hhigh => ?_⟩
      rcases Nat.lt_or_eq_of_le (Nat.le_of_lt_succ hhigh) with hlt | rfl
      · exact hstay i hlow hlt
      · exact ⟨inner', hkept⟩
    obtain ⟨rules, world, hnext⟩ := h.next m
    obtain ⟨pushed, hpushed, -⟩ := Program.exists_pushed script (programs m) rules world
    rw [← hnext, hnesting] at hpushed
    cases pushed with
    | none => exact hearlier hpushed.symm
    | some top =>
      cases inner with
      | nil =>
        obtain ⟨rfl, houter⟩ := List.cons.inj hpushed
        exact ⟨m, Nat.lt_succ_self m, hnesting, houter.symm, fun i hlow hhigh => by omega⟩
      | cons first inner => exact hearlier (List.cons.inj hpushed).2.symm

/-- Running through a block and skipping it end at the same line. From the nesting of any program a
tick takes off the blocks in `popped`, the innermost ones, and leaves those in `kept`; all that it
puts on top of these is the block of the header it is at, or one more pass of a `for` loop that it
has taken off. Every block that a tick of a run takes off, to leave it for good or to send its loop
back, is taken off with the end of the block as the next line; this is the line that a tick at its
header goes to if the condition there fails. Each such block was put on the nesting by an earlier
tick, on top of the blocks that this tick had kept. Every tick since then has kept it there and
carried out, if any, a line above the end of the block. -/
theorem blocks_end_where_skipping_leads (script : Script) :
    (∀ rules world program,
      program.popped script ++ program.kept script = program.nesting ∧
        ∃ pushed : Option Block,
          (tick rules script world program).program.nesting =
              pushed.toList ++ program.kept script ∧
            ∀ block ∈ pushed, block.line = program.cursor ∨
              ∃ before ∈ program.popped script, block.IsNextPassOf before) ∧
    (∀ program, Program.Reachable script program → ∀ block ∈ program.popped script,
      program.cursor = script.blockEnd block.line block.indent ∧
        ∀ rules world before line rest, before.cursor = block.line →
          script.line? block.line = some line →
          before.nesting.close (Script.indentOf line) = .fellThrough rest →
          (Statement.classify line).isEntered (world.grow rules.growthStep) = false →
            (tick rules script world before).program.cursor = program.cursor) ∧
      ∀ programs, IsRun script programs → ∀ m, ∀ block ∈ (programs m).popped script,
        ∃ n < m, (programs (n + 1)).nesting = block :: (programs n).kept script ∧
          ∀ i, n < i → i < m →
            (∃ inner, (programs i).kept script = inner ++ block :: (programs n).kept script) ∧
            ∀ rules world dispatch, dispatch? rules script world (programs i) = some dispatch →
              dispatch.line < script.blockEnd block.line block.indent := by
  refine ⟨fun rules world program => ?_, ?_, ?_⟩
  · exact ⟨program.popped_append_kept script, program.exists_pushed script rules world⟩
  · intro program hreachable block hpopped
    have henclosed := hreachable.enclosed
    have hcursor := henclosed.cursor_of_popped hpopped
    refine ⟨hcursor, fun rules world before line rest hheader hline hclose hguard => ?_⟩
    obtain ⟨line', hline', hindent, -⟩ := henclosed.headed block
      (Program.mem_of_mem_popped hpopped)
    cases hline.symm.trans hline'
    rw [cursor_tick_of_not_entered rules world (hheader ▸ hline) hclose hguard, hheader, hindent,
      hcursor]
  · intro programs hrun m block hpopped
    obtain ⟨inner, outer, hnesting⟩ := List.append_of_mem (Program.mem_of_mem_popped hpopped)
    obtain ⟨n, hn, hpush, rfl, hstay⟩ := hrun.exists_push hnesting
    refine ⟨n, hn, hpush, fun i hlow hhigh => ?_⟩
    obtain ⟨inner', hkept⟩ := hstay i hlow hhigh
    refine ⟨⟨inner', hkept⟩, fun rules world dispatch hdispatch => ?_⟩
    exact (hrun.enclosed i).lt_blockEnd_of_kept (by simp [hkept]) hdispatch

/-- Two blocks, one inside the other and followed by an empty line, end at the last line: the tick
there takes off both, leaves the inner one and sends the outer loop back. The inner block was put on
the nesting by the second tick, and no line further down than its body was carried out in
between. -/
theorem blocks_end_where_skipping_leads_nested :
    let script : Script := ⟨#["for i in range(2):", "  if True:", "    left()", "", "right()"]⟩
    let programs (n : Nat) : Program :=
      (stateAfter Rules.default script Rules.default.freshWorld Program.start n).2
    let block : Block := ⟨.ifThen, 1, 2⟩
    let loop (iteration : UInt32) : Block := ⟨.forLoop iteration 2, 0, 0⟩
    let next := (tick Rules.default script Rules.default.freshWorld (programs 4)).program
    IsRun script programs ∧ (programs 4).popped script = [block, loop 0] ∧
      next.nesting = [loop 1] ∧
      (∃ pushed : Option Block, next.nesting = pushed.toList ++ (programs 4).kept script ∧
        ∀ again ∈ pushed, again.line = (programs 4).cursor ∨
          ∃ before ∈ [block, loop 0], again.IsNextPassOf before) ∧
      (programs 4).cursor = script.blockEnd 1 2 ∧
      ∃ n < 4, (programs (n + 1)).nesting = block :: (programs n).kept script ∧
        ∀ i, n < i → i < 4 → ∀ rules world dispatch,
          dispatch? rules script world (programs i) = some dispatch →
            dispatch.line < script.blockEnd 1 2 := by
  intro script programs block loop next
  have hrun := isRun_stateAfter Rules.default script Rules.default.freshWorld
  have hreachable := reachable_stateAfter Rules.default script Rules.default.freshWorld 4
  have hpopped : (programs 4).popped script = [block, loop 0] := by decide +kernel
  have hnext : next.nesting = [loop 1] := by decide +kernel
  have hmem : block ∈ (programs 4).popped script := by simp [hpopped]
  obtain ⟨htick, hend, hlife⟩ := blocks_end_where_skipping_leads script
  obtain ⟨-, hpushed⟩ := htick Rules.default Rules.default.freshWorld (programs 4)
  rw [hpopped] at hpushed
  have hcursor := (hend (programs 4) hreachable block hmem).1
  obtain ⟨n, hn, hpush, hbetween⟩ := hlife programs hrun 4 block hmem
  refine ⟨hrun, hpopped, hnext, hpushed, hcursor, n, hn, hpush, ?_⟩
  exact fun i hlow hhigh => (hbetween i hlow hhigh).2

end FarmScript
