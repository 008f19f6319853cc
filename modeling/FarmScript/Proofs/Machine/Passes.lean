import FarmScript.Proofs.Machine.Endless

/-! # The passes of a `for` loop

A `for` loop that is entered makes as many passes as its header says, and one if it says none. Its
block is closed after every pass and opened again with one more pass on its account, so what a run
keeps is that the block stands on top of the same outer blocks and that its account is the number of
times the loop was sent back (`IsRun.exists_forLoop`).

Closing (`Nesting.Fate`) treats a block in one of three ways: it does not get as far, it sends
the loop of the block back, or it leaves the block and goes on with the outer ones. When the tick
that leaves a block carries out a header, the block of that header stands where the other one stood,
so that the number of open blocks between two ticks does not tell that a block was left; the number
after closing (`Program.stillOpen`) does.
-/

namespace FarmScript
set_option autoImplicit false

/-! ## Closing around one block -/

/-- The blocks that are open after closing. -/
def Nesting.Closing.nesting : Nesting.Closing → Nesting
  | .loopedBack _ nesting | .fellThrough nesting => nesting

/-- How many blocks stand around the loop that closing sends back, if it sends one back. -/
def Nesting.sentBack? (indent : Nat) : Nesting → Option Nat
  | [] => none
  | block :: outer =>
    if block.isClosedBy indent then
      if block.isDone then sentBack? indent outer else some outer.length
    else none

namespace Nesting

theorem sentBack?_cons_leftBy {indent : Nat} {block : Block} (outer : Nesting)
    (h : block.LeftBy indent) : sentBack? indent (block :: outer) = sentBack? indent outer := by
  obtain ⟨hdone, hle⟩ := h
  simp [sentBack?, Block.isClosedBy, hdone, hle]

theorem sentBack?_cons_of_loop {indent : Nat} {block : Block} (outer : Nesting)
    (hloop : block.isDone = false) (hle : indent ≤ block.indent) :
    sentBack? indent (block :: outer) = some outer.length := by
  simp [sentBack?, Block.isClosedBy, hloop, hle]

theorem sentBack?_cons_of_lt {indent : Nat} {block : Block} (outer : Nesting)
    (hlt : block.indent < indent) : sentBack? indent (block :: outer) = none := by
  simp [sentBack?, Block.isClosedBy, Nat.not_le.mpr hlt]

theorem lt_length_of_sentBack? {indent d : Nat} {nesting : Nesting}
    (h : sentBack? indent nesting = some d) : d < nesting.length := by
  induction nesting with
  | nil => cases h
  | cons block outer ih =>
    unfold sentBack? at h
    split at h
    · split at h
      · exact Nat.lt_succ_of_lt (ih h)
      · cases h
        exact Nat.lt_succ_self _
    · cases h

theorem length_close_le (indent : Nat) (nesting : Nesting) :
    (close indent nesting).nesting.length ≤ nesting.length := by
  cases hclose : close indent nesting with
  | fellThrough rest =>
    obtain ⟨done, rfl, -, -⟩ := exists_of_close_eq_fellThrough hclose
    simp [Closing.nesting]
  | loopedBack cursor nesting' =>
    obtain ⟨done, block, outer, rfl, -, -, hloop⟩ := exists_of_close_eq_loopedBack hclose
    rcases hloop with ⟨-, -, rfl⟩ | ⟨iteration, target, -, -, -, rfl⟩
    · simp [Closing.nesting]
      omega
    · simp [Closing.nesting]

/-- What closing by `indent` does to a block of a `for` loop with the blocks around it. -/
inductive Fate (indent : Nat) (nesting : Nesting) (block : Block) (iteration target : UInt32)
    (outer : Nesting) : Prop
  | kept (inner : Nesting) (hnesting : (close indent nesting).nesting = inner ++ block :: outer)
      (hback : sentBack? indent nesting ≠ some outer.length)
  | again (hle : indent ≤ block.indent) (hlt : iteration.toNat + 1 < target.toNat)
      (hclose : close indent nesting = .loopedBack (block.line + 1)
        ({ block with kind := .forLoop (iteration + 1) target } :: outer))
      (hback : sentBack? indent nesting = some outer.length)
  | left (hle : indent ≤ block.indent) (hlast : target.toNat ≤ iteration.toNat + 1)
      (hnesting : (close indent nesting).nesting.length ≤ outer.length)
      (hback : sentBack? indent nesting ≠ some outer.length)

theorem fate (indent : Nat) (inner : Nesting) {block : Block} {iteration target : UInt32}
    (outer : Nesting) (hkind : block.kind = .forLoop iteration target) :
    Fate indent (inner ++ block :: outer) block iteration target outer := by
  induction inner with
  | nil =>
    by_cases hle : indent ≤ block.indent
    · by_cases hlt : iteration.toNat + 1 < target.toNat
      · have hloop : block.isDone = false := by
          simp only [Block.isDone, hkind, decide_eq_false_iff_not]
          omega
        exact .again hle hlt (close_forLoop outer hkind hle hlt)
          (sentBack?_cons_of_loop outer hloop hle)
      · have hlast : target.toNat ≤ iteration.toNat + 1 := by omega
        have hleft : block.LeftBy indent := ⟨by simpa [Block.isDone, hkind] using hlast, hle⟩
        refine .left hle hlast ?_ ?_
        · rw [List.nil_append, close_cons_leftBy outer hleft]
          exact length_close_le indent outer
        · rw [List.nil_append, sentBack?_cons_leftBy outer hleft]
          intro hback
          exact absurd (lt_length_of_sentBack? hback) (Nat.lt_irrefl _)
    · have hlt : block.indent < indent := by omega
      refine .kept [] ?_ ?_
      · rw [List.nil_append, close_of_deeper (by simpa using hlt)]
        rfl
      · rw [List.nil_append, sentBack?_cons_of_lt outer hlt]
        simp
  | cons first inner ih =>
    -- a block further in is passed over, or closing stops at it
    have hdeep : (inner ++ block :: outer).length ≠ outer.length := by
      rw [List.length_append, List.length_cons]
      omega
    by_cases hle : indent ≤ first.indent
    · cases hdone : first.isDone with
      | true =>
        have hclose := close_cons_leftBy (inner ++ block :: outer) ⟨hdone, hle⟩
        have hback := sentBack?_cons_leftBy (inner ++ block :: outer) ⟨hdone, hle⟩
        rw [List.cons_append]
        cases ih with
        | kept inner' hnesting hback' =>
          exact .kept inner' (by rw [hclose, hnesting]) (by rw [hback]; exact hback')
        | again hle' hlt hclose' hback' =>
          exact .again hle' hlt (hclose.trans hclose') (hback.trans hback')
        | left hle' hlast hnesting hback' =>
          exact .left hle' hlast (by rw [hclose]; exact hnesting) (by rw [hback]; exact hback')
      | false =>
        have hback := sentBack?_cons_of_loop (inner ++ block :: outer) hdone hle
        have hback' : sentBack? indent (first :: inner ++ block :: outer) ≠ some outer.length := by
          rw [List.cons_append, hback]
          intro heq
          exact hdeep (Option.some.inj heq)
        rcases kind_cases_of_not_isDone hdone with hwhile | ⟨passes, total, hfor, hlt⟩
        · refine .kept inner ?_ hback'
          rw [List.cons_append, close_whileLoop _ hwhile hle]
          rfl
        · refine .kept ({ first with kind := .forLoop (passes + 1) total } :: inner) ?_ hback'
          rw [List.cons_append, close_forLoop _ hfor hle hlt]
          rfl
    · have hlt : first.indent < indent := by omega
      refine .kept (first :: inner) ?_ ?_
      · rw [List.cons_append, close_of_deeper (by simpa using hlt)]
        rfl
      · rw [List.cons_append, sentBack?_cons_of_lt _ hlt]
        simp

end Nesting

/-! ## Ticks -/

namespace Program

/-- The blocks that are open when the next tick has closed the blocks that its line closes. -/
def stillOpen (script : Script) (program : Program) : Nesting :=
  match script.closingIndent? program.cursor with
  | none => program.nesting
  | some indent => (program.nesting.close indent).nesting

/-- How many blocks stand around the loop that the next tick sends back, if it sends one back. -/
def sentBack? (script : Script) (program : Program) : Option Nat :=
  (script.closingIndent? program.cursor).bind program.nesting.sentBack?

variable {script : Script} {program : Program}

theorem stillOpen_of_indent {indent : Nat} (h : script.closingIndent? program.cursor = some indent) :
    program.stillOpen script = (program.nesting.close indent).nesting := by
  simp only [stillOpen, h]

theorem stillOpen_of_skippable {line : String} (hline : script.line? program.cursor = some line)
    (hskip : Script.isSkippable line = true) : program.stillOpen script = program.nesting := by
  simp [stillOpen, Script.closingIndent?, hline, hskip]

/-- After a tick the blocks are open that were when it had closed some, and the block that it has
entered. -/
theorem exists_nesting_tick (script : Script) (program : Program) (rules : Rules) (world : World) :
    ∃ entered, (tick rules script world program).program.nesting =
      entered ++ program.stillOpen script := by
  have hopen {line : String} {nesting : Nesting} (hline : script.line? program.cursor = some line)
      (hskip : Script.isSkippable line = false)
      (hclose : program.nesting.close (Script.indentOf line) = .fellThrough nesting) :
      program.stillOpen script = nesting := by
    rw [stillOpen_of_indent (Script.closingIndent?_of_line hline hskip), hclose]
    rfl
  cases tick_move rules script world program with
  | exhausted hend hnone hnext =>
    refine ⟨[], ?_⟩
    rw [hnext, hnone, stillOpen_of_indent (Script.closingIndent?_of_length_le hend), hnone]
    rfl
  | passed hline hskip hnext =>
    refine ⟨[], ?_⟩
    rw [hnext, stillOpen_of_skippable hline hskip]
    rfl
  | loopedBack hindent hclose hnext =>
    refine ⟨[], ?_⟩
    rw [hnext, stillOpen_of_indent hindent, hclose]
    rfl
  | closed hend hsome hclose hnext =>
    refine ⟨[], ?_⟩
    rw [hnext, stillOpen_of_indent (Script.closingIndent?_of_length_le hend), hclose]
    rfl
  | advanced hline hskip hclose hkind hnext =>
    refine ⟨[], ?_⟩
    rw [hnext, hopen hline hskip hclose]
    rfl
  | @entered line nesting kind hline hskip hclose hkind hguard hnext =>
    refine ⟨[⟨kind, program.cursor, Script.indentOf line⟩], ?_⟩
    rw [hnext, hopen hline hskip hclose]
    rfl
  | skipped hline hskip hclose hkind hguard hnext =>
    refine ⟨[], ?_⟩
    rw [hnext, hopen hline hskip hclose]
    rfl

/-- What a tick does to an open block of a `for` loop: it keeps the block, or sends the loop back, or
leaves the block when its last pass is over and the end of the block is reached. -/
inductive LoopMove (script : Script) (program next : Program) (block : Block)
    (iteration target : UInt32) (outer : Nesting) : Prop
  | kept (inner : Nesting) (hopen : outer.length < (program.stillOpen script).length)
      (hback : program.sentBack? script ≠ some outer.length)
      (hnext : next.nesting = inner ++ block :: outer)
  | again (hopen : outer.length < (program.stillOpen script).length)
      (hback : program.sentBack? script = some outer.length)
      (hlt : iteration.toNat + 1 < target.toNat)
      (hnext : next =
        ⟨block.line + 1, { block with kind := .forLoop (iteration + 1) target } :: outer⟩)
  | left (hopen : (program.stillOpen script).length ≤ outer.length)
      (hback : program.sentBack? script ≠ some outer.length)
      (hlast : target.toNat ≤ iteration.toNat + 1)
      (hcursor : program.cursor = script.blockEnd block.line block.indent)

theorem Enclosed.loopMove (henclosed : program.Enclosed script) (rules : Rules) (world : World)
    {inner outer : Nesting} {block : Block} {iteration target : UInt32}
    (hnesting : program.nesting = inner ++ block :: outer)
    (hkind : block.kind = .forLoop iteration target) :
    LoopMove script program (FarmScript.tick rules script world program).program block iteration
      target outer := by
  obtain ⟨entered, hentered⟩ := exists_nesting_tick script program rules world
  cases hindent : script.closingIndent? program.cursor with
  | none =>
    have hopen : program.stillOpen script = program.nesting := by simp only [stillOpen, hindent]
    refine .kept (entered ++ inner) ?_ (by simp [sentBack?, hindent]) ?_
    · rw [hopen, hnesting, List.length_append, List.length_cons]
      omega
    · rw [hentered, hopen, hnesting, List.append_assoc]
  | some indent =>
    have hopen := stillOpen_of_indent hindent
    have hback : program.sentBack? script = program.nesting.sentBack? indent := by
      simp [sentBack?, hindent]
    have hfate := Nesting.fate indent inner outer hkind
    rw [← hnesting] at hfate
    cases hfate with
    | kept inner' hrest hnot =>
      refine .kept (entered ++ inner') ?_ (hback ▸ hnot) ?_
      · rw [hopen, hrest, List.length_append, List.length_cons]
        omega
      · rw [hentered, hopen, hrest, List.append_assoc]
    | again hle hlt hclose hsent =>
      refine .again ?_ (hback.trans hsent) hlt ?_
      · rw [hopen, hclose]
        exact Nat.lt_succ_self _
      · exact congrArg Tick.program (tick_eq_loopedBack rules world hindent hclose)
    | left hle hlast hrest hnot =>
      refine .left (hopen ▸ hrest) (hback ▸ hnot) hlast ?_
      obtain ⟨hafter, hbefore⟩ := henclosed.inside block (by simp [hnesting])
      exact Nat.le_antisymm hbefore (Script.blockEnd_le_of_closes hafter ⟨indent, hindent, hle⟩)

end Program

/-! ## Runs -/

/-- Whether programs are those of a run: from the start of the script, each left by a tick of the one
before, on some farm and by some rules. -/
structure IsRun (script : Script) (programs : Nat → Program) : Prop where
  start : programs 0 = Program.start
  next : ∀ n, Program.Next script (programs n) (programs (n + 1))

theorem isRun_stateAfter (rules : Rules) (script : Script) (world : World) :
    IsRun script fun n => (stateAfter rules script world Program.start n).2 where
  start := rfl
  next _ := ⟨rules, _, rfl⟩

namespace IsRun
variable {script : Script} {programs : Nat → Program}

theorem enclosed (h : IsRun script programs) (n : Nat) : (programs n).Enclosed script := by
  induction n with
  | zero => exact h.start ▸ .start
  | succ n ih =>
    obtain ⟨rules, world, hnext⟩ := h.next n
    exact hnext ▸ ih.tick rules world

/-- As long as closing leaves more blocks open than stand around a loop, the block of the loop stays
and counts how often the loop is sent back. -/
theorem exists_forLoop (h : IsRun script programs) {start header indent : Nat} {count : UInt32}
    {outer : Nesting}
    (hstart : (programs start).nesting = ⟨.forLoop 0 count, header, indent⟩ :: outer) {i : Nat}
    (hopen : ∀ j < i, outer.length < ((programs (start + j)).stillOpen script).length) :
    ∃ inner iteration, (programs (start + i)).nesting =
        inner ++ ⟨.forLoop iteration count, header, indent⟩ :: outer ∧
      iteration.toNat = (List.range i).countP fun j =>
        (programs (start + j)).sentBack? script = some outer.length := by
  induction i with
  | zero => exact ⟨[], 0, hstart, rfl⟩
  | succ i ih =>
    obtain ⟨inner, iteration, hnesting, hcount⟩ := ih fun j hj => hopen j (Nat.lt_succ_of_lt hj)
    obtain ⟨rules, world, hnext⟩ := h.next (start + i)
    have hmove := (h.enclosed (start + i)).loopMove rules world hnesting rfl
    rw [← hnext] at hmove
    rw [List.range_succ, List.countP_append, ← hcount, List.countP_singleton]
    cases hmove with
    | kept inner' _ hback hnesting' =>
      refine ⟨inner', iteration, hnesting', ?_⟩
      rw [if_neg (by simpa using hback), Nat.add_zero]
    | again _ hback hlt hprogram =>
      refine ⟨[], iteration + 1, ?_, ?_⟩
      · rw [← Nat.add_assoc, hprogram]
        rfl
      · rw [if_pos (by simpa using hback), toNat_add_one_of_lt hlt]
    | left hleft _ _ _ => exact absurd (hopen i (Nat.lt_succ_self i)) (Nat.not_lt.mpr hleft)

end IsRun

theorem tick_forHeader (rules : Rules) {script : Script} (world : World) {program : Program}
    {line : String} {count : UInt32} {outer : Nesting}
    (hline : script.line? program.cursor = some line)
    (hfor : Statement.classify line = .forLoop count)
    (hclose : program.nesting.close (Script.indentOf line) = .fellThrough outer) :
    (tick rules script world program).program =
      ⟨program.cursor + 1,
        ⟨.forLoop 0 count, program.cursor, Script.indentOf line⟩ :: outer⟩ := by
  have hskip : Script.isSkippable line = false :=
    Script.isSkippable_eq_false_of_isSome (by rw [hfor]; rfl)
  rw [tick_eq_dispatched rules world hline hskip hclose, dispatch_program, hfor]
  rfl

/-- In every run, when the header of a `for` loop is carried out with some blocks left open around
it, its block is opened on top of them with no pass on its account. As long as closing has since
left more blocks open than these, the block stands on top of them, and its account is the number of
times the loop was sent back, each time to the line after the header. The block is left only at its
end and with all passes but the last on its account, so that the body has then been started as often
as the header says, or once if it says never. -/
theorem for_loop_makes_its_passes {script : Script} {programs : Nat → Program}
    (hrun : IsRun script programs) {n : Nat} {line : String} {count : UInt32} {outer : Nesting}
    (hline : script.line? (programs n).cursor = some line)
    (hfor : Statement.classify line = .forLoop count)
    (hclose : (programs n).nesting.close (Script.indentOf line) = .fellThrough outer) :
    let header := (programs n).cursor
    let loop (iteration : UInt32) : Block :=
      ⟨.forLoop iteration count, header, Script.indentOf line⟩
    let later (i : Nat) : Program := programs (n + 1 + i)
    let returns (i : Nat) : Nat :=
      (List.range i).countP fun j => (later j).sentBack? script = some outer.length
    later 0 = ⟨header + 1, loop 0 :: outer⟩ ∧
      ∀ i, (∀ j < i, outer.length < ((later j).stillOpen script).length) →
        ∃ inner iteration, (later i).nesting = inner ++ loop iteration :: outer ∧
          iteration.toNat = returns i ∧
          ((later i).sentBack? script = some outer.length →
            later (i + 1) = ⟨header + 1, loop (iteration + 1) :: outer⟩) ∧
          (((later i).stillOpen script).length ≤ outer.length →
            (later i).cursor = script.blockEnd header (Script.indentOf line) ∧
              iteration.toNat = max count.toNat 1 - 1 ∧ 1 + returns i = max count.toNat 1) := by
  intro header loop later returns
  have hfirst : later 0 = ⟨header + 1, loop 0 :: outer⟩ := by
    obtain ⟨rules, world, hnext⟩ := hrun.next n
    exact hnext.trans (tick_forHeader rules world hline hfor hclose)
  refine ⟨hfirst, fun i hopen => ?_⟩
  obtain ⟨inner, iteration, hnesting, hcount⟩ :=
    hrun.exists_forLoop (congrArg Program.nesting hfirst) hopen
  refine ⟨inner, iteration, hnesting, hcount, ?_⟩
  have henclosed := hrun.enclosed (n + 1 + i)
  obtain ⟨rules, world, hnext⟩ := hrun.next (n + 1 + i)
  have hmove := henclosed.loopMove rules world hnesting rfl
  rw [← hnext] at hmove
  cases hmove with
  | kept inner' hopen hback hnesting' =>
    exact ⟨fun hsent => absurd hsent hback, fun hle => absurd hopen (Nat.not_lt.mpr hle)⟩
  | again hopen hback hlt hprogram =>
    exact ⟨fun _ => hprogram, fun hle => absurd hopen (Nat.not_lt.mpr hle)⟩
  | left hleft hback hlast hcursor =>
    refine ⟨fun hsent => absurd hsent hback, fun _ => ?_⟩
    -- the account of an open block is within the number of its header
    obtain ⟨line', hline', -, hopened⟩ := henclosed.headed (loop iteration) (by simp [hnesting, loop])
    cases hline.symm.trans hline'
    rw [hfor] at hopened
    have hwithin := hopened.2
    have hall : iteration.toNat + 1 = max count.toNat 1 := by omega
    have hreturns : iteration.toNat = returns i := hcount
    exact ⟨hcursor, by omega, by omega⟩

/-- A loop of two passes around a loop that asks for none: both bodies end at the last line, where
the outer block is left when it has been sent back once. -/
theorem for_loop_makes_its_passes_nested :
    let script : Script :=
      ⟨#["for i in range(2):", "  for i in range(0):", "    left()", "right()"]⟩
    let programs (n : Nat) : Program :=
      (stateAfter Rules.default script Rules.default.freshWorld Program.start n).2
    IsRun script programs ∧
      (∀ j < 5, 0 < ((programs (1 + j)).stillOpen script).length) ∧
      ((programs 6).stillOpen script).length ≤ 0 ∧ (programs 6).cursor = script.blockEnd 0 0 ∧
      1 + (List.range 5).countP (fun j => (programs (1 + j)).sentBack? script = some 0) = 2 := by
  intro script programs
  have hrun := isRun_stateAfter Rules.default script Rules.default.freshWorld
  have hopen : ∀ j < 5, 0 < ((programs (1 + j)).stillOpen script).length := by decide +kernel
  have hleft : ((programs 6).stillOpen script).length ≤ 0 := by decide +kernel
  have hfor : Statement.classify "for i in range(2):" = .forLoop 2 := by decide +kernel
  have hline : script.line? (programs 0).cursor = some "for i in range(2):" := rfl
  have hclose : (programs 0).nesting.close (Script.indentOf "for i in range(2):") =
      .fellThrough [] := rfl
  have hindent : Script.indentOf "for i in range(2):" = 0 := by decide +kernel
  obtain ⟨-, hpasses⟩ := for_loop_makes_its_passes hrun hline hfor hclose
  obtain ⟨inner, iteration, -, -, -, hlast⟩ := hpasses 5 hopen
  obtain ⟨hcursor, -, hcount⟩ := hlast hleft
  exact ⟨hrun, hopen, hleft, hindent ▸ hcursor, hcount⟩

/-- Of two loops one below the other, the second takes the place of the first in one tick. So more
blocks stay open than stand around the first loop, though its block is left. -/
theorem next_loop_takes_the_place :
    let script : Script :=
      ⟨#["for i in range(1):", "    pass()", "for i in range(2):", "    pass()"]⟩
    let programs (n : Nat) : Program :=
      (stateAfter Rules.default script Rules.default.freshWorld Program.start n).2
    IsRun script programs ∧ programs 0 = ⟨0, []⟩ ∧
      programs 1 = ⟨1, [⟨.forLoop 0 1, 0, 0⟩]⟩ ∧
      ¬ ∀ i, (∀ j ≤ i, 0 < (programs (1 + j)).nesting.length) →
        ∃ inner iteration, (programs (1 + i)).nesting = inner ++ [⟨.forLoop iteration 1, 0, 0⟩] := by
  intro script programs
  refine ⟨isRun_stateAfter Rules.default script Rules.default.freshWorld, rfl, by decide +kernel, ?_⟩
  intro hall
  obtain ⟨inner, iteration, hnesting⟩ := hall 2 (by decide +kernel)
  have hthird : (programs 3).nesting = [⟨.forLoop 0 2, 2, 0⟩] := by decide +kernel
  rw [show 1 + 2 = 3 from rfl, hthird] at hnesting
  have hlast := congrArg List.getLast? hnesting
  simp at hlast

end FarmScript
