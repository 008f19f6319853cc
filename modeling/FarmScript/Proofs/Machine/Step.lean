import FarmScript.Machine.Tick
import FarmScript.Proofs.Machine.BlockEnd

/-! # What one tick can do

Every later fact about runs goes back to the two case distinctions of this module.

* Closing: `Nesting.close` leaves some inner blocks for good (`Block.LeftBy`) and then stops at a
  block that stays open (`exists_of_close_eq_fellThrough`) or at a loop that runs again
  (`exists_of_close_eq_loopedBack`).
* `Tick.Case`: the five things a tick does, each with the condition for it and the whole tick.
* `Move`: the same for the program alone, with the line that is carried out told apart by whether
  it opens a block and whether the block is entered.
-/

namespace FarmScript
set_option autoImplicit false

theorem saturatingAdd_one_lt_iff (iteration target : UInt32) :
    saturatingAdd iteration 1 < target ↔ iteration.toNat + 1 < target.toNat := by
  rw [UInt32.lt_iff_toNat_lt, toNat_saturatingAdd]
  have ht := target.toNat_lt
  have h1 : (1 : UInt32).toNat = 1 := rfl
  omega

theorem toNat_add_one_of_lt {iteration target : UInt32}
    (h : iteration.toNat + 1 < target.toNat) : (iteration + 1).toNat = iteration.toNat + 1 := by
  have ht := target.toNat_lt
  have h1 : (1 : UInt32).toNat = 1 := rfl
  rw [UInt32.toNat_add, h1]
  exact Nat.mod_eq_of_lt (by omega)

/-! ## Closing blocks -/

namespace Block

/-- Whether a block that is closed is left for good, as every block is that is no loop with a pass
to go. -/
def isDone (block : Block) : Bool :=
  match block.kind with
  | .whileLoop => false
  | .forLoop iteration target => decide (target.toNat ≤ iteration.toNat + 1)
  | .ifThen | .elseThen => true

/-- Whether a line that is indented by `indent` leaves the block for good. -/
def LeftBy (indent : Nat) (block : Block) : Prop := block.isDone = true ∧ indent ≤ block.indent

theorem LeftBy.mono {indent indent' : Nat} {block : Block} (h : block.LeftBy indent')
    (hle : indent ≤ indent') : block.LeftBy indent :=
  ⟨h.1, Nat.le_trans hle h.2⟩

end Block

namespace Nesting

theorem close_cons_leftBy {indent : Nat} {block : Block} (outer : Nesting)
    (h : block.LeftBy indent) : close indent (block :: outer) = close indent outer := by
  obtain ⟨hdone, hle⟩ := h
  obtain ⟨kind, line, deep⟩ := block
  cases kind with
  | whileLoop => simp [Block.isDone] at hdone
  | forLoop iteration target =>
    simp only [Block.isDone, decide_eq_true_eq] at hdone
    have hlast : ¬ saturatingAdd iteration 1 < target := by
      rw [saturatingAdd_one_lt_iff]
      omega
    simp only [close, Block.isClosedBy, decide_eq_true_eq, if_pos hle, if_neg hlast]
  | ifThen => simp only [close, Block.isClosedBy, decide_eq_true_eq, if_pos hle]
  | elseThen => simp only [close, Block.isClosedBy, decide_eq_true_eq, if_pos hle]

theorem close_append_leftBy {indent : Nat} (done rest : Nesting)
    (h : ∀ block ∈ done, block.LeftBy indent) :
    close indent (done ++ rest) = close indent rest := by
  induction done with
  | nil => rfl
  | cons block done ih =>
    rw [List.cons_append, close_cons_leftBy _ (h block List.mem_cons_self)]
    exact ih fun b hb => h b (List.mem_cons_of_mem block hb)

theorem close_of_deeper {indent : Nat} {nesting : Nesting}
    (h : ∀ block ∈ nesting.head?, block.indent < indent) :
    close indent nesting = .fellThrough nesting := by
  cases nesting with
  | nil => rfl
  | cons block outer =>
    have hlt : block.indent < indent := h block rfl
    have hopen : ¬ indent ≤ block.indent := by omega
    simp only [close, Block.isClosedBy, decide_eq_true_eq, if_neg hopen]

theorem close_whileLoop {indent : Nat} {block : Block} (outer : Nesting)
    (hkind : block.kind = .whileLoop) (hle : indent ≤ block.indent) :
    close indent (block :: outer) = .loopedBack block.line outer := by
  simp only [close, Block.isClosedBy, decide_eq_true_eq, if_pos hle, hkind]

theorem close_forLoop {indent : Nat} {block : Block} {iteration target : UInt32} (outer : Nesting)
    (hkind : block.kind = .forLoop iteration target) (hle : indent ≤ block.indent)
    (hlt : iteration.toNat + 1 < target.toNat) :
    close indent (block :: outer) =
      .loopedBack (block.line + 1)
        ({ block with kind := .forLoop (iteration + 1) target } :: outer) := by
  have hagain := (saturatingAdd_one_lt_iff iteration target).mpr hlt
  simp only [close, Block.isClosedBy, decide_eq_true_eq, if_pos hle, hkind, if_pos hagain]

theorem kind_cases_of_not_isDone {block : Block} (h : block.isDone = false) :
    block.kind = .whileLoop ∨ ∃ iteration target, block.kind = .forLoop iteration target ∧
      iteration.toNat + 1 < target.toNat := by
  obtain ⟨kind, line, indent⟩ := block
  cases kind with
  | whileLoop => exact .inl rfl
  | forLoop iteration target =>
    simp only [Block.isDone, decide_eq_false_iff_not] at h
    exact .inr ⟨iteration, target, rfl, by omega⟩
  | ifThen => simp [Block.isDone] at h
  | elseThen => simp [Block.isDone] at h

theorem exists_leftBy_append (indent : Nat) (nesting : Nesting) :
    ∃ done rest, nesting = done ++ rest ∧ (∀ block ∈ done, block.LeftBy indent) ∧
      ∀ block ∈ rest.head?,
        block.indent < indent ∨ block.isDone = false ∧ indent ≤ block.indent := by
  induction nesting with
  | nil => exact ⟨[], [], rfl, by simp, by simp⟩
  | cons block outer ih =>
    by_cases hleft : block.LeftBy indent
    · obtain ⟨done, rest, rfl, hdone, hrest⟩ := ih
      refine ⟨block :: done, rest, rfl, ?_, hrest⟩
      intro b hb
      rcases List.mem_cons.mp hb with rfl | hb
      · exact hleft
      · exact hdone b hb
    · refine ⟨[], block :: outer, rfl, by simp, ?_⟩
      intro b hb
      obtain rfl : block = b := by simpa using hb
      unfold Block.LeftBy at hleft
      by_cases hle : indent ≤ block.indent
      · exact .inr ⟨by simpa [hle] using hleft, hle⟩
      · exact .inl (by omega)

theorem exists_of_close_eq_fellThrough {indent : Nat} {nesting rest : Nesting}
    (h : close indent nesting = .fellThrough rest) :
    ∃ done, nesting = done ++ rest ∧ (∀ block ∈ done, block.LeftBy indent) ∧
      ∀ block ∈ rest.head?, block.indent < indent := by
  obtain ⟨done, rest', rfl, hdone, hrest⟩ := exists_leftBy_append indent nesting
  rw [close_append_leftBy done rest' hdone] at h
  cases rest' with
  | nil =>
    obtain rfl : [] = rest := by simpa [close] using h
    exact ⟨done, rfl, hdone, by simp⟩
  | cons block outer =>
    rcases hrest block rfl with hlt | ⟨hloop, hle⟩
    · rw [close_of_deeper (by simpa using hlt)] at h
      cases h
      exact ⟨done, rfl, hdone, by simpa using hlt⟩
    · rcases kind_cases_of_not_isDone hloop with hk | ⟨iteration, target, hk, hlt⟩
      · rw [close_whileLoop outer hk hle] at h
        cases h
      · rw [close_forLoop outer hk hle hlt] at h
        cases h

theorem exists_of_close_eq_loopedBack {indent cursor : Nat} {nesting nesting' : Nesting}
    (h : close indent nesting = .loopedBack cursor nesting') :
    ∃ done block outer, nesting = done ++ block :: outer ∧
      (∀ b ∈ done, Block.LeftBy indent b) ∧ indent ≤ block.indent ∧
      (block.kind = .whileLoop ∧ cursor = block.line ∧ nesting' = outer ∨
        ∃ iteration target, block.kind = .forLoop iteration target ∧
          iteration.toNat + 1 < target.toNat ∧ cursor = block.line + 1 ∧
          nesting' = { block with kind := .forLoop (iteration + 1) target } :: outer) := by
  obtain ⟨done, rest, rfl, hdone, hrest⟩ := exists_leftBy_append indent nesting
  rw [close_append_leftBy done rest hdone] at h
  cases rest with
  | nil => simp [close] at h
  | cons block outer =>
    rcases hrest block rfl with hlt | ⟨hloop, hle⟩
    · rw [close_of_deeper (by simpa using hlt)] at h
      cases h
    · refine ⟨done, block, outer, rfl, hdone, hle, ?_⟩
      rcases kind_cases_of_not_isDone hloop with hk | ⟨iteration, target, hk, hlt⟩
      · rw [close_whileLoop outer hk hle] at h
        cases h
        exact .inl ⟨hk, rfl, rfl⟩
      · rw [close_forLoop outer hk hle hlt] at h
        cases h
        exact .inr ⟨iteration, target, hk, hlt, rfl, rfl⟩

/-- What closing blocks comes to when the blocks are changed by `f` and the lines of their headers
move along. -/
def Closing.map (move : Nat → Nat) (f : Block → Block) : Closing → Closing
  | loopedBack cursor nesting => loopedBack (move cursor) (nesting.map f)
  | fellThrough nesting => fellThrough (nesting.map f)

/-- Closing commutes with every change of lines and indentations that keeps which blocks are
closed. -/
theorem close_map {indent indent' : Nat} {move : Nat → Nat} {shift : Nat → Nat → Nat}
    {f : Block → Block} {nesting : Nesting}
    (hf : ∀ kind line deep, f ⟨kind, line, deep⟩ = ⟨kind, move line, shift line deep⟩)
    (hclosed : ∀ block ∈ nesting, indent' ≤ (f block).indent ↔ indent ≤ block.indent)
    (hsucc : ∀ block ∈ nesting, move (block.line + 1) = move block.line + 1) :
    close indent' (nesting.map f) = (close indent nesting).map move f := by
  induction nesting with
  | nil => rfl
  | cons block outer ih =>
    have houter := ih (fun b hb => hclosed b (List.mem_cons_of_mem block hb))
      fun b hb => hsucc b (List.mem_cons_of_mem block hb)
    have hblock := hclosed block List.mem_cons_self
    have hnext := hsucc block List.mem_cons_self
    obtain ⟨kind, line, deep⟩ := block
    simp only [hf] at hblock hnext
    rw [List.map_cons, hf]
    by_cases hle : indent ≤ deep
    · have hle' : indent' ≤ (Block.mk kind (move line) (shift line deep)).indent := hblock.mpr hle
      cases hdone : Block.isDone ⟨kind, line, deep⟩ with
      | true =>
        have hleft' : Block.LeftBy indent' ⟨kind, move line, shift line deep⟩ := ⟨hdone, hle'⟩
        rw [close_cons_leftBy _ hleft', close_cons_leftBy _ ⟨hdone, hle⟩]
        exact houter
      | false =>
        rcases kind_cases_of_not_isDone hdone with hwhile | ⟨iteration, target, hfor, hlt⟩
        · obtain rfl : kind = .whileLoop := hwhile
          rw [close_whileLoop _ rfl hle', close_whileLoop _ rfl hle, Closing.map]
        · obtain rfl : kind = .forLoop iteration target := hfor
          rw [close_forLoop _ rfl hle' hlt, close_forLoop _ rfl hle hlt, Closing.map, hnext,
            List.map_cons, hf]
    · have hopen : deep < indent := by omega
      have hopen' : shift line deep < indent' := by
        have := mt hblock.mp hle
        omega
      rw [close_of_deeper (by simpa using hopen'), close_of_deeper (by simpa using hopen),
        Closing.map, List.map_cons, hf]

theorem eq_nil_of_close_zero {nesting rest : Nesting} (h : close 0 nesting = .fellThrough rest) :
    rest = [] := by
  obtain ⟨_, _, _, hrest⟩ := exists_of_close_eq_fellThrough h
  cases rest with
  | nil => rfl
  | cons block outer => exact absurd (hrest block rfl) (Nat.not_lt_zero _)

end Nesting

/-! ## The statement of a line -/

namespace Statement

/-- The kind of block that a statement opens. -/
def blockKind? : Statement → Option Block.Kind
  | whileLoop _ => some .whileLoop
  | forLoop count => some (.forLoop 0 count)
  | ifThen _ => some .ifThen
  | elseThen => some .elseThen
  | blank | call _ | assignment | noOp => none

/-- The condition of a header that asks for one. -/
def guard? : Statement → Option Condition
  | whileLoop condition | ifThen condition => some condition
  | forLoop _ | elseThen | blank | call _ | assignment | noOp => none

/-- Whether the block of a header is entered: a header without a condition always is. -/
def isEntered (world : World) (statement : Statement) : Bool :=
  statement.guard?.all (·.holds world)

theorem isEntered_congr {world world' : World} {statement : Statement}
    (h : ∀ condition ∈ statement.guard?, condition.holds world = condition.holds world') :
    statement.isEntered world = statement.isEntered world' := by
  unfold isEntered
  cases hguard : statement.guard? with
  | none => rfl
  | some condition => exact h condition hguard

/-- The farm after a statement: only the word of a command changes it. -/
def effect (rules : Rules) (world : World) : Statement → World
  | call word =>
    match Command.ofWord? word with
    | none => world
    | some command => (command.execute rules world).1
  | blank | whileLoop _ | forLoop _ | ifThen _ | elseThen | assignment | noOp => world

end Statement

section Dispatch
variable (rules : Rules) (script : Script) (indent : Nat) (world : World) (program : Program)
  (statement : Statement)

theorem dispatch_program :
    (Tick.dispatch rules script indent world program statement).program =
      match statement.blockKind? with
      | none => program.advance
      | some kind =>
        if statement.isEntered world then program.enter kind indent
        else program.skip script indent := by
  cases statement with
  | call word =>
    simp only [Tick.dispatch, Statement.blockKind?]
    split <;> rfl
  | _ => rfl

theorem dispatch_world :
    (Tick.dispatch rules script indent world program statement).world =
      statement.effect rules world := by
  cases statement with
  | call word =>
    cases hword : Command.ofWord? word <;>
      simp only [Tick.dispatch, Tick.moveTo, Statement.effect, hword]
  | _ => rfl

theorem dispatch_status :
    (Tick.dispatch rules script indent world program statement).status = .running := by
  cases statement with
  | call word =>
    simp only [Tick.dispatch]
    split <;> rfl
  | _ => rfl

end Dispatch

/-! ## The cases of a tick -/

/-- What a tick does, by the position it starts at: it finds the script exhausted, passes over an
empty line or a comment, sends a loop back, closes the last blocks, or carries a line out. -/
inductive Tick.Case (rules : Rules) (script : Script) (world : World) (program : Program)
    (t : Tick) : Prop
  | exhausted (hend : script.length ≤ program.cursor) (hnone : program.nesting = [])
      (ht : t = { moveTo (world.grow rules.growthStep) program with status := .exhausted })
  | passed {line : String} (hline : script.line? program.cursor = some line)
      (hskip : Script.isSkippable line = true)
      (ht : t = moveTo (world.grow rules.growthStep) program.advance)
  | loopedBack {indent cursor : Nat} {nesting : Nesting}
      (hindent : script.closingIndent? program.cursor = some indent)
      (hclose : program.nesting.close indent = .loopedBack cursor nesting)
      (ht : t = moveTo (world.grow rules.growthStep) ⟨cursor, nesting⟩)
  | closed (hend : script.length ≤ program.cursor) (hopen : program.nesting ≠ [])
      (hclose : program.nesting.close 0 = .fellThrough [])
      (ht : t = moveTo (world.grow rules.growthStep) ⟨program.cursor, []⟩)
  | dispatched {line : String} {nesting : Nesting}
      (hline : script.line? program.cursor = some line)
      (hskip : Script.isSkippable line = false)
      (hclose : program.nesting.close (Script.indentOf line) = .fellThrough nesting)
      (ht : t = dispatch rules script (Script.indentOf line) (world.grow rules.growthStep)
        ⟨program.cursor, nesting⟩ (Statement.classify line))

section TickEq
variable (rules : Rules) {script : Script} (world : World) {program : Program}

theorem tick_eq_passed {line : String} (hline : script.line? program.cursor = some line)
    (hskip : Script.isSkippable line = true) :
    tick rules script world program =
      Tick.moveTo (world.grow rules.growthStep) program.advance := by
  simp [tick, hline, Tick.atLine, hskip]

theorem tick_eq_dispatched {line : String} {nesting : Nesting}
    (hline : script.line? program.cursor = some line) (hskip : Script.isSkippable line = false)
    (hclose : program.nesting.close (Script.indentOf line) = .fellThrough nesting) :
    tick rules script world program =
      Tick.dispatch rules script (Script.indentOf line) (world.grow rules.growthStep)
        ⟨program.cursor, nesting⟩ (Statement.classify line) := by
  simp [tick, hline, Tick.atLine, hskip, hclose]

theorem tick_eq_loopedBack {indent cursor : Nat} {nesting : Nesting}
    (hindent : script.closingIndent? program.cursor = some indent)
    (hclose : program.nesting.close indent = .loopedBack cursor nesting) :
    tick rules script world program =
      Tick.moveTo (world.grow rules.growthStep) ⟨cursor, nesting⟩ := by
  cases hline : script.line? program.cursor with
  | none =>
    obtain rfl : 0 = indent := by simpa [Script.closingIndent?, hline] using hindent
    have hopen : program.nesting ≠ [] := by
      intro hnone
      rw [hnone] at hclose
      cases hclose
    simp [tick, hline, Tick.atEnd, hopen, hclose]
  | some line =>
    obtain ⟨hskip, rfl⟩ : Script.isSkippable line = false ∧ Script.indentOf line = indent := by
      simpa [Script.closingIndent?, hline] using hindent
    simp [tick, hline, Tick.atLine, hskip, hclose]

theorem tick_eq_closed {nesting : Nesting} (hend : script.length ≤ program.cursor)
    (hopen : program.nesting ≠ []) (hclose : program.nesting.close 0 = .fellThrough nesting) :
    tick rules script world program =
      Tick.moveTo (world.grow rules.growthStep) ⟨program.cursor, []⟩ := by
  obtain rfl := Nesting.eq_nil_of_close_zero hclose
  simp [tick, Script.line?_eq_none_iff.mpr hend, Tick.atEnd, hopen, hclose]

theorem tick_eq_exhausted (hend : script.length ≤ program.cursor) (hnone : program.nesting = []) :
    tick rules script world program =
      { Tick.moveTo (world.grow rules.growthStep) program with status := .exhausted } := by
  simp [tick, Script.line?_eq_none_iff.mpr hend, Tick.atEnd, hnone]

end TickEq

theorem tick_case (rules : Rules) (script : Script) (world : World) (program : Program) :
    Tick.Case rules script world program (tick rules script world program) := by
  cases hline : script.line? program.cursor with
  | none =>
    have hend := Script.line?_eq_none_iff.mp hline
    by_cases hnone : program.nesting = []
    · exact .exhausted hend hnone (tick_eq_exhausted rules world hend hnone)
    · cases hclose : program.nesting.close 0 with
      | loopedBack cursor nesting =>
        have hindent := Script.closingIndent?_of_length_le hend
        exact .loopedBack hindent hclose (tick_eq_loopedBack rules world hindent hclose)
      | fellThrough nesting =>
        obtain rfl := Nesting.eq_nil_of_close_zero hclose
        exact .closed hend hnone hclose (tick_eq_closed rules world hend hnone hclose)
  | some line =>
    cases hskip : Script.isSkippable line with
    | true => exact .passed hline hskip (tick_eq_passed rules world hline hskip)
    | false =>
      cases hclose : program.nesting.close (Script.indentOf line) with
      | loopedBack cursor nesting =>
        have hindent := Script.closingIndent?_of_line hline hskip
        exact .loopedBack hindent hclose (tick_eq_loopedBack rules world hindent hclose)
      | fellThrough nesting =>
        exact .dispatched hline hskip hclose (tick_eq_dispatched rules world hline hskip hclose)

/-- A tick finds the script exhausted exactly when the program is. -/
theorem tick_status_eq_exhausted_iff (rules : Rules) (script : Script) (world : World)
    (program : Program) :
    (tick rules script world program).status = .exhausted ↔
      script.length ≤ program.cursor ∧ program.nesting = [] := by
  constructor
  · intro hstatus
    cases tick_case rules script world program with
    | exhausted hend hnone ht => exact ⟨hend, hnone⟩
    | passed hline hskip ht => rw [ht] at hstatus; cases hstatus
    | loopedBack hindent hclose ht => rw [ht] at hstatus; cases hstatus
    | closed hend hopen hclose ht => rw [ht] at hstatus; cases hstatus
    | dispatched hline hskip hclose ht => rw [ht, dispatch_status] at hstatus; cases hstatus
  · rintro ⟨hend, hnone⟩
    rw [tick_eq_exhausted rules world hend hnone]

/-- What a tick does to the program, on a farm that has grown already. -/
inductive Move (script : Script) (world : World) (program next : Program) : Prop
  | exhausted (hend : script.length ≤ program.cursor) (hnone : program.nesting = [])
      (hnext : next = program)
  | passed {line : String} (hline : script.line? program.cursor = some line)
      (hskip : Script.isSkippable line = true) (hnext : next = program.advance)
  | loopedBack {indent cursor : Nat} {nesting : Nesting}
      (hindent : script.closingIndent? program.cursor = some indent)
      (hclose : program.nesting.close indent = .loopedBack cursor nesting)
      (hnext : next = ⟨cursor, nesting⟩)
  | closed (hend : script.length ≤ program.cursor) (hopen : program.nesting ≠ [])
      (hclose : program.nesting.close 0 = .fellThrough []) (hnext : next = ⟨program.cursor, []⟩)
  | advanced {line : String} {nesting : Nesting}
      (hline : script.line? program.cursor = some line)
      (hskip : Script.isSkippable line = false)
      (hclose : program.nesting.close (Script.indentOf line) = .fellThrough nesting)
      (hkind : (Statement.classify line).blockKind? = none)
      (hnext : next = ⟨program.cursor + 1, nesting⟩)
  | entered {line : String} {nesting : Nesting} {kind : Block.Kind}
      (hline : script.line? program.cursor = some line)
      (hskip : Script.isSkippable line = false)
      (hclose : program.nesting.close (Script.indentOf line) = .fellThrough nesting)
      (hkind : (Statement.classify line).blockKind? = some kind)
      (hguard : (Statement.classify line).isEntered world = true)
      (hnext : next =
        ⟨program.cursor + 1, ⟨kind, program.cursor, Script.indentOf line⟩ :: nesting⟩)
  | skipped {line : String} {nesting : Nesting} {kind : Block.Kind}
      (hline : script.line? program.cursor = some line)
      (hskip : Script.isSkippable line = false)
      (hclose : program.nesting.close (Script.indentOf line) = .fellThrough nesting)
      (hkind : (Statement.classify line).blockKind? = some kind)
      (hguard : (Statement.classify line).isEntered world = false)
      (hnext : next = ⟨script.blockEnd program.cursor (Script.indentOf line), nesting⟩)

theorem tick_move (rules : Rules) (script : Script) (world : World) (program : Program) :
    Move script (world.grow rules.growthStep) program
      (tick rules script world program).program := by
  cases tick_case rules script world program with
  | exhausted hend hnone ht => exact .exhausted hend hnone (by rw [ht]; rfl)
  | passed hline hskip ht => exact .passed hline hskip (by rw [ht]; rfl)
  | loopedBack hindent hclose ht => exact .loopedBack hindent hclose (by rw [ht]; rfl)
  | closed hend hopen hclose ht => exact .closed hend hopen hclose (by rw [ht]; rfl)
  | @dispatched line nesting hline hskip hclose ht =>
    rw [ht, dispatch_program]
    cases hkind : (Statement.classify line).blockKind? with
    | none => exact .advanced hline hskip hclose hkind rfl
    | some kind =>
      cases hguard : (Statement.classify line).isEntered (world.grow rules.growthStep) with
      | true => exact .entered hline hskip hclose hkind hguard rfl
      | false => exact .skipped hline hskip hclose hkind hguard rfl

end FarmScript
