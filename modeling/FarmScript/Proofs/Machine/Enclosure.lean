import FarmScript.Proofs.Machine.Run
import FarmScript.Proofs.Machine.Step

/-! # The open blocks are the blocks around the next line

A program that ticks lead to has exactly the blocks open whose header stands above the next line
and whose end stands below it, whatever the script and its indentation look like.

`Program.Enclosed` is the invariant. It has one strengthening: the blocks that are open are also
complete around the header of every open block (`Covers`), since a `while` loop goes back there. A
tick is made of five moves, and each keeps the invariant: blocks that the next line closes go away
(`drop`), a line that opens no block is passed (`pass`), a block is entered (`enter`) or skipped
(`skip`), and a loop goes back to its header (`back`). A further pass of a `for` loop is a return
to its header that enters the block again.
-/

namespace FarmScript
set_option autoImplicit false

/-! ## Headers -/

/-- Whether a block of a kind can be open below a header with a statement: its kind is the
header's, and a `for` block has the header's number and is within it. -/
def Block.Kind.OpenedBy : Block.Kind → Statement → Prop
  | .forLoop iteration target, .forLoop count =>
    target = count ∧ iteration.toNat < max target.toNat 1
  | .whileLoop, .whileLoop _ | .ifThen, .ifThen _ | .elseThen, .elseThen => True
  | _, _ => False

/-- Whether a block is one that the line of its header opens. -/
def Block.HeadedIn (script : Script) (block : Block) : Prop :=
  ∃ line, script.line? block.line = some line ∧ Script.indentOf line = block.indent ∧
    block.kind.OpenedBy (Statement.classify line)

/-- Whether a line is a header that is indented by `indent`. -/
def Script.Opens (script : Script) (header indent : Nat) : Prop :=
  ∃ line, script.line? header = some line ∧ Script.indentOf line = indent ∧
    (Statement.classify line).blockKind?.isSome = true

theorem Statement.openedBy_blockKind {statement : Statement} {kind : Block.Kind}
    (h : statement.blockKind? = some kind) : kind.OpenedBy statement := by
  cases statement with
  | forLoop count =>
    cases h
    refine ⟨rfl, ?_⟩
    have hzero : (0 : UInt32).toNat = 0 := rfl
    omega
  | whileLoop condition => cases h; trivial
  | ifThen condition => cases h; trivial
  | elseThen => cases h; trivial
  | blank => cases h
  | call word => cases h
  | assignment => cases h
  | noOp => cases h

theorem Block.Kind.OpenedBy.isSome {kind : Block.Kind} {statement : Statement}
    (h : kind.OpenedBy statement) : statement.blockKind?.isSome = true := by
  cases statement with
  | forLoop count => rfl
  | whileLoop condition => rfl
  | ifThen condition => rfl
  | elseThen => rfl
  | blank => cases kind <;> cases h
  | call word => cases kind <;> cases h
  | assignment => cases kind <;> cases h
  | noOp => cases kind <;> cases h

namespace Script
variable {script : Script}

theorem isSkippable_eq_false_of_isSome {line : String}
    (h : (Statement.classify line).blockKind?.isSome = true) : isSkippable line = false := by
  by_contra hskip
  rw [Bool.not_eq_false, ← Statement.classify_eq_blank_iff] at hskip
  rw [hskip] at h
  cases h

theorem Opens.closingIndent?_eq {header indent : Nat} (h : script.Opens header indent) :
    script.closingIndent? header = some indent := by
  obtain ⟨line, hline, rfl, hkind⟩ := h
  exact closingIndent?_of_line hline (isSkippable_eq_false_of_isSome hkind)

theorem Opens.indent_unique {header indent indent' : Nat} (h : script.Opens header indent)
    (h' : script.Opens header indent') : indent = indent' := by
  have heq := h.closingIndent?_eq.symm.trans h'.closingIndent?_eq
  cases heq
  rfl

theorem Opens.lt_length {header indent : Nat} (h : script.Opens header indent) :
    header < script.length := by
  obtain ⟨line, hline, -, -⟩ := h
  exact lt_length_of_line? hline

theorem not_closes_of_lt {indent indent' i : Nat} (h : script.closingIndent? i = some indent)
    (hlt : indent' < indent) : ¬ script.Closes indent' i := by
  rintro ⟨k, hk, hle⟩
  rw [h] at hk
  cases hk
  omega

theorem lt_blockEnd_of_not_closes {header indent i : Nat}
    (hle : i ≤ script.blockEnd header indent) (h : ¬ script.Closes indent i) :
    i < script.blockEnd header indent := by
  rcases Nat.lt_or_eq_of_le hle with hlt | rfl
  · exact hlt
  · exact absurd (closes_blockEnd header indent) h

end Script

theorem Block.HeadedIn.opens {script : Script} {block : Block} (h : block.HeadedIn script) :
    script.Opens block.line block.indent := by
  obtain ⟨line, hline, hindent, hkind⟩ := h
  exact ⟨line, hline, hindent, hkind.isSome⟩

/-! ## The invariant -/

/-- Whether every block around a position is among the open ones. -/
def Covers (script : Script) (nesting : Nesting) (i : Nat) : Prop :=
  ∀ header indent, script.Opens header indent → header < i → i < script.blockEnd header indent →
    ∃ block ∈ nesting, block.line = header

/-- The open blocks are the blocks around the next line, the innermost first. -/
structure Program.Enclosed (script : Script) (program : Program) : Prop where
  cursor_le : program.cursor ≤ script.length
  ordered : program.nesting.Pairwise fun inner outer =>
    outer.line < inner.line ∧ outer.indent < inner.indent
  headed : ∀ block ∈ program.nesting, block.HeadedIn script
  inside : ∀ block ∈ program.nesting,
    block.line < program.cursor ∧ program.cursor ≤ script.blockEnd block.line block.indent
  covers : Covers script program.nesting program.cursor
  covers_line : ∀ block ∈ program.nesting, Covers script program.nesting block.line

theorem Covers.mono {script : Script} {nesting nesting' : Nesting} {i : Nat}
    (h : Covers script nesting i) (hsub : nesting ⊆ nesting') : Covers script nesting' i := by
  intro header indent hopens hlt hend
  obtain ⟨block, hmem, hline⟩ := h header indent hopens hlt hend
  exact ⟨block, hsub hmem, hline⟩

/-- Around the next position stand the blocks around this one, and the block that it opens. -/
theorem Covers.succ {script : Script} {nesting : Nesting} {i : Nat} (h : Covers script nesting i)
    (hopens : ∀ indent, script.Opens i indent → ∃ block ∈ nesting, block.line = i) :
    Covers script nesting (i + 1) := by
  intro header indent hheader hlt hend
  rcases Nat.lt_or_eq_of_le (Nat.le_of_lt_succ hlt) with hbefore | rfl
  · exact h header indent hheader hbefore (by omega)
  · exact hopens indent hheader

namespace Program.Enclosed
variable {script : Script} {cursor : Nat} {nesting : Nesting}

theorem start : Enclosed script Program.start where
  cursor_le := Nat.zero_le _
  ordered := .nil
  headed := by simp [Program.start]
  inside := by simp [Program.start]
  covers := by
    intro header indent hopens hlt
    exact absurd hlt (Nat.not_lt_zero _)
  covers_line := by simp [Program.start]

theorem lt_blockEnd {program : Program} (h : Enclosed script program) {block : Block}
    (hmem : block ∈ program.nesting) (hcloses : ¬ script.Closes block.indent program.cursor) :
    program.cursor < script.blockEnd block.line block.indent :=
  Script.lt_blockEnd_of_not_closes (h.inside block hmem).2 hcloses

theorem drop {closed rest : Nesting} (h : Enclosed script ⟨cursor, closed ++ rest⟩)
    (hclosed : ∀ block ∈ closed, script.Closes block.indent cursor) :
    Enclosed script ⟨cursor, rest⟩ := by
  have hsub : ∀ block ∈ rest, block ∈ closed ++ rest :=
    fun block hmem => List.mem_append_right closed hmem
  obtain ⟨-, hordered, habove⟩ := List.pairwise_append.mp h.ordered
  refine ⟨h.cursor_le, hordered, fun b hb => h.headed b (hsub b hb),
    fun b hb => h.inside b (hsub b hb), ?_, ?_⟩
  · intro header indent hopens hlt hend
    obtain ⟨block, hmem, rfl⟩ := h.covers header indent hopens hlt hend
    rcases List.mem_append.mp hmem with hmem' | hmem'
    · -- a block that the position closes does not reach beyond it
      obtain rfl := hopens.indent_unique (h.headed block hmem).opens
      have hle := Script.blockEnd_le_of_closes hlt (hclosed block hmem')
      exact absurd hend (Nat.not_lt.mpr hle)
    · exact ⟨block, hmem', rfl⟩
  · intro block hblock header indent hopens hlt hend
    obtain ⟨block', hmem, rfl⟩ :=
      h.covers_line block (hsub block hblock) header indent hopens hlt hend
    rcases List.mem_append.mp hmem with hmem | hmem
    · have horder := (habove block' hmem block hblock).1
      omega
    · exact ⟨block', hmem, rfl⟩

theorem back {inner outer : Nesting} {block : Block}
    (h : Enclosed script ⟨cursor, inner ++ block :: outer⟩) :
    Enclosed script ⟨block.line, outer⟩ := by
  have hblock : block ∈ inner ++ block :: outer := by simp
  have hsub : ∀ b ∈ outer, b ∈ inner ++ block :: outer := by
    intro b hb
    simp [hb]
  obtain ⟨-, hordered, habove⟩ := List.pairwise_append.mp h.ordered
  obtain ⟨hbelow, houter⟩ := List.pairwise_cons.mp hordered
  have hafter : ∀ b ∈ inner ++ block :: outer, b.line < block.line → b ∈ outer := by
    intro b hb hlt
    rcases List.mem_append.mp hb with hb | hb
    · have := (habove b hb block List.mem_cons_self).1
      omega
    · rcases List.mem_cons.mp hb with rfl | hb
      · omega
      · exact hb
  have hcursor : block.line < cursor := (h.inside block hblock).1
  refine ⟨Nat.le_trans (Nat.le_of_lt hcursor) h.cursor_le, houter,
    fun b hb => h.headed b (hsub b hb), ?_, ?_, ?_⟩
  · intro b hb
    have hend : cursor ≤ script.blockEnd b.line b.indent := (h.inside b (hsub b hb)).2
    exact ⟨(hbelow b hb).1, Nat.le_trans (Nat.le_of_lt hcursor) hend⟩
  · intro header indent hopens hlt hend
    obtain ⟨b, hb, rfl⟩ := h.covers_line block hblock header indent hopens hlt hend
    exact ⟨b, hafter b hb hlt, rfl⟩
  · intro b hb header indent hopens hlt hend
    obtain ⟨b', hb', rfl⟩ := h.covers_line b (hsub b hb) header indent hopens hlt hend
    have := (hbelow b hb).1
    exact ⟨b', hafter b' hb' (by omega), rfl⟩

theorem pass (h : Enclosed script ⟨cursor, nesting⟩) (hlt : cursor < script.length)
    (hplain : ∀ indent, ¬ script.Opens cursor indent)
    (hopen : ∀ block ∈ nesting, ¬ script.Closes block.indent cursor) :
    Enclosed script ⟨cursor + 1, nesting⟩ := by
  refine ⟨hlt, h.ordered, h.headed, ?_, ?_, h.covers_line⟩
  · intro block hmem
    exact ⟨Nat.lt_succ_of_lt (h.inside block hmem).1, h.lt_blockEnd hmem (hopen block hmem)⟩
  · exact h.covers.succ fun indent hopens => absurd hopens (hplain indent)

theorem enter {block : Block} (hheaded : block.HeadedIn script)
    (h : Enclosed script ⟨block.line, nesting⟩) (hdeeper : ∀ b ∈ nesting, b.indent < block.indent) :
    Enclosed script ⟨block.line + 1, block :: nesting⟩ := by
  have hopens := hheaded.opens
  have hlength := hopens.lt_length
  refine ⟨hlength, List.pairwise_cons.mpr ⟨?_, h.ordered⟩, ?_, ?_, ?_, ?_⟩
  · intro b hb
    exact ⟨(h.inside b hb).1, hdeeper b hb⟩
  · intro b hb
    rcases List.mem_cons.mp hb with rfl | hb
    · exact hheaded
    · exact h.headed b hb
  · intro b hb
    rcases List.mem_cons.mp hb with rfl | hb
    · exact ⟨Nat.lt_succ_self _, Script.lt_blockEnd b.indent hlength⟩
    · have hcloses := Script.not_closes_of_lt hopens.closingIndent?_eq (hdeeper b hb)
      exact ⟨Nat.lt_succ_of_lt (h.inside b hb).1, h.lt_blockEnd hb hcloses⟩
  · have hcovers := h.covers.mono (List.subset_cons_self block nesting)
    exact hcovers.succ fun indent _ => ⟨block, List.mem_cons_self, rfl⟩
  · intro b hb
    rcases List.mem_cons.mp hb with rfl | hb
    · exact h.covers.mono (List.subset_cons_self b nesting)
    · exact (h.covers_line b hb).mono (List.subset_cons_self block nesting)

theorem skip {indent : Nat} (h : Enclosed script ⟨cursor, nesting⟩)
    (hopens : script.Opens cursor indent) (hdeeper : ∀ b ∈ nesting, b.indent < indent) :
    Enclosed script ⟨script.blockEnd cursor indent, nesting⟩ := by
  have hlt : cursor < script.blockEnd cursor indent := Script.lt_blockEnd indent hopens.lt_length
  refine ⟨Script.blockEnd_le_length cursor indent, h.ordered, h.headed, ?_, ?_, h.covers_line⟩
  · intro b hb
    have hcloses := Script.not_closes_of_lt hopens.closingIndent?_eq (hdeeper b hb)
    have hinner := h.lt_blockEnd hb hcloses
    refine ⟨Nat.lt_trans (h.inside b hb).1 hlt, ?_⟩
    exact Script.blockEnd_le_blockEnd hinner (Nat.le_of_lt (hdeeper b hb))
  · intro header indent' hheader hbefore hend
    rcases Nat.lt_trichotomy header cursor with habove | rfl | hbelow
    · exact h.covers header indent' hheader habove (Nat.lt_trans hlt hend)
    · obtain rfl := hopens.indent_unique hheader
      exact absurd hend (Nat.lt_irrefl _)
    · -- a header inside the skipped block is deeper than it and ends with it
      have hle : indent ≤ indent' := by
        by_contra hshallow
        have hcloses : script.Closes indent header :=
          ⟨indent', hheader.closingIndent?_eq, by omega⟩
        exact absurd hbefore (Nat.not_lt.mpr (Script.blockEnd_le_of_closes hbelow hcloses))
      exact absurd hend (Nat.not_lt.mpr (Script.blockEnd_le_blockEnd hbefore hle))

/-! ## Ticks -/

/-- The blocks that a position closes by its indentation may go away, and those that stay are
indented less. -/
theorem fallThrough {indent : Nat} {rest : Nesting} (h : Enclosed script ⟨cursor, nesting⟩)
    (hindent : script.closingIndent? cursor = some indent)
    (hclose : nesting.close indent = .fellThrough rest) :
    Enclosed script ⟨cursor, rest⟩ ∧ ∀ block ∈ rest, block.indent < indent := by
  obtain ⟨done, rfl, hdone, hhead⟩ := Nesting.exists_of_close_eq_fellThrough hclose
  have hrest : Enclosed script ⟨cursor, rest⟩ :=
    h.drop fun block hmem => ⟨indent, hindent, (hdone block hmem).2⟩
  refine ⟨hrest, ?_⟩
  cases rest with
  | nil => simp
  | cons first outer =>
    have hfirst : first.indent < indent := hhead first rfl
    intro block hmem
    rcases List.mem_cons.mp hmem with rfl | hmem
    · exact hfirst
    · have := ((List.pairwise_cons.mp hrest.ordered).1 block hmem).2
      omega

theorem loopBack {indent next : Nat} {nesting' : Nesting}
    (h : Enclosed script ⟨cursor, nesting⟩)
    (hclose : nesting.close indent = .loopedBack next nesting') :
    Enclosed script ⟨next, nesting'⟩ := by
  obtain ⟨done, block, outer, rfl, -, -, hloop⟩ := Nesting.exists_of_close_eq_loopedBack hclose
  have hback : Enclosed script ⟨block.line, outer⟩ := h.back
  rcases hloop with ⟨-, rfl, rfl⟩ | ⟨iteration, target, hkind, hlt, rfl, rfl⟩
  · exact hback
  · obtain ⟨-, hordered, -⟩ := List.pairwise_append.mp h.ordered
    obtain ⟨line, hline, hindent, hopened⟩ := h.headed block (by simp)
    have hopened' : Block.Kind.OpenedBy (.forLoop (iteration + 1) target)
        (Statement.classify line) := by
      rw [hkind] at hopened
      cases hstatement : Statement.classify line with
      | forLoop count =>
        rw [hstatement] at hopened
        refine ⟨hopened.1, ?_⟩
        rw [toNat_add_one_of_lt hlt]
        omega
      | _ =>
        rw [hstatement] at hopened
        cases hopened
    have hheaded : Block.HeadedIn script { block with kind := .forLoop (iteration + 1) target } :=
      ⟨line, hline, hindent, hopened'⟩
    exact Enclosed.enter hheaded hback
      fun b hb => ((List.pairwise_cons.mp hordered).1 b hb).2

theorem tick {program : Program} (rules : Rules) (world : World) (h : Enclosed script program) :
    Enclosed script (FarmScript.tick rules script world program).program := by
  obtain ⟨cursor, nesting⟩ := program
  cases tick_move rules script world ⟨cursor, nesting⟩ with
  | exhausted hend hnone hnext =>
    rw [hnext]
    exact h
  | @passed line hline hskip hnext =>
    rw [hnext]
    refine h.pass (Script.lt_length_of_line? hline) ?_ ?_
    · rintro indent ⟨line', hline', -, hkind⟩
      rw [hline] at hline'
      cases hline'
      rw [Script.isSkippable_eq_false_of_isSome hkind] at hskip
      cases hskip
    · intro block _
      exact Script.not_closes_of_skippable hline hskip
  | loopedBack hindent hclose hnext => exact hnext ▸ h.loopBack hclose
  | closed hend hopen hclose hnext =>
    exact hnext ▸ (h.fallThrough (Script.closingIndent?_of_length_le hend) hclose).1
  | @advanced line nesting' hline hskip hclose hkind hnext =>
    have hindent := Script.closingIndent?_of_line hline hskip
    obtain ⟨hrest, hdeeper⟩ := h.fallThrough hindent hclose
    rw [hnext]
    refine hrest.pass (Script.lt_length_of_line? hline) ?_ ?_
    · rintro indent ⟨line', hline', -, hsome⟩
      rw [hline] at hline'
      cases hline'
      rw [hkind] at hsome
      cases hsome
    · intro block hmem
      exact Script.not_closes_of_lt hindent (hdeeper block hmem)
  | @entered line nesting' kind hline hskip hclose hkind hguard hnext =>
    obtain ⟨hrest, hdeeper⟩ := h.fallThrough (Script.closingIndent?_of_line hline hskip) hclose
    have hheaded : Block.HeadedIn script ⟨kind, cursor, Script.indentOf line⟩ :=
      ⟨line, hline, rfl, Statement.openedBy_blockKind hkind⟩
    rw [hnext]
    exact Enclosed.enter hheaded hrest hdeeper
  | @skipped line nesting' kind hline hskip hclose hkind hguard hnext =>
    obtain ⟨hrest, hdeeper⟩ := h.fallThrough (Script.closingIndent?_of_line hline hskip) hclose
    rw [hnext]
    exact hrest.skip ⟨line, hline, rfl, by rw [hkind]; rfl⟩ hdeeper

end Program.Enclosed

theorem Program.Reachable.enclosed {script : Script} {program : Program}
    (h : Program.Reachable script program) : program.Enclosed script := by
  induction h with
  | start => exact .start
  | tick rules world _ ih => exact ih.tick rules world

theorem countP_line_eq_one {nesting : Nesting} {header : Nat}
    (hordered : nesting.Pairwise fun inner outer =>
      outer.line < inner.line ∧ outer.indent < inner.indent)
    (hmem : ∃ block ∈ nesting, block.line = header) :
    nesting.countP (fun block => block.line = header) = 1 := by
  induction nesting with
  | nil =>
    obtain ⟨block, hblock, -⟩ := hmem
    cases hblock
  | cons first outer ih =>
    obtain ⟨hfirst, houter⟩ := List.pairwise_cons.mp hordered
    by_cases hline : first.line = header
    · have hnone : outer.countP (fun block => block.line = header) = 0 := by
        rw [List.countP_eq_zero]
        intro block hblock
        have := (hfirst block hblock).1
        simp only [decide_eq_true_eq]
        omega
      rw [List.countP_cons_of_pos (by simpa using hline), hnone]
    · rw [List.countP_cons_of_neg (by simpa using hline)]
      obtain ⟨block, hblock, rfl⟩ := hmem
      rcases List.mem_cons.mp hblock with rfl | hblock
      · exact absurd rfl hline
      · exact ih houter ⟨block, hblock, rfl⟩

/-- In every program that ticks lead to the next line is in the script or its end. The open blocks,
the outermost first, have headers further and further down and indented deeper and deeper. Each is
one that its header opens and has the next line inside or right behind it. And every header whose
block has the next line inside, before its end, has exactly one open block. -/
theorem nesting_eq_enclosing_blocks {script : Script} {program : Program}
    (h : Program.Reachable script program) :
    program.cursor ≤ script.length ∧
      program.nesting.reverse.Pairwise (fun outer inner =>
        outer.line < inner.line ∧ outer.indent < inner.indent) ∧
      (∀ block ∈ program.nesting, ∃ line, script.line? block.line = some line ∧
        Script.indentOf line = block.indent ∧ block.kind.OpenedBy (Statement.classify line)) ∧
      (∀ block ∈ program.nesting, block.line < program.cursor ∧
        program.cursor ≤ script.blockEnd block.line block.indent) ∧
      ∀ header line, script.line? header = some line →
        (Statement.classify line).blockKind?.isSome = true → header < program.cursor →
          program.cursor < script.blockEnd header (Script.indentOf line) →
            program.nesting.countP (fun block => block.line = header) = 1 := by
  have henclosed := h.enclosed
  refine ⟨henclosed.cursor_le, List.pairwise_reverse.mpr henclosed.ordered, henclosed.headed,
    henclosed.inside, ?_⟩
  intro header line hline hkind hlt hend
  have hmem := henclosed.covers header (Script.indentOf line) ⟨line, hline, rfl, hkind⟩ hlt hend
  exact countP_line_eq_one henclosed.ordered hmem

/-- Four ticks into a script with a comment between two headers and uneven indentation, the blocks
of both headers are open, the last line being inside both. -/
theorem nesting_eq_enclosing_blocks_uneven :
    let script : Script :=
      ⟨#["for i in range(3):", "      # rows", "   while True:", "         plant()", "    move()"]⟩
    let program : Program := ⟨4, [⟨.whileLoop, 2, 3⟩, ⟨.forLoop 0 3, 0, 0⟩]⟩
    Program.Reachable script program ∧
      program.nesting.reverse.Pairwise (fun outer inner =>
        outer.line < inner.line ∧ outer.indent < inner.indent) ∧
      program.nesting.countP (fun block => block.line = 2) = 1 := by
  intro script program
  have hreachable : Program.Reachable script program := by
    have hstate : (stateAfter Rules.default script Rules.default.freshWorld Program.start 4).2 =
        program := by decide +kernel
    exact hstate ▸ reachable_stateAfter Rules.default script Rules.default.freshWorld 4
  obtain ⟨-, hordered, -, -, hcovers⟩ := nesting_eq_enclosing_blocks hreachable
  refine ⟨hreachable, hordered, ?_⟩
  exact hcovers 2 "   while True:" rfl (by decide +kernel) (by decide) (by decide +kernel)

end FarmScript
