import FarmScript.Proofs.Machine.Run
import FarmScript.Proofs.Machine.Step
import FarmScript.Proofs.Structured.Rendering

/-! # Ticks evaluate structured programs

The script of a structured program, run by ticks, does exactly what the evaluator does, unit for
unit: after every number of ticks the farm is the evaluator's, and a tick finds the script
exhausted exactly when the evaluator has no task left and its last unit left no block open.

The proof relates the program (cursor and open blocks) to the tasks that are left. The blocks that
a line at the present depth leaves for good count for nothing. The nodes from the cursor to the end
of the present body come first, and each block that stays open adds what its header asks for after
the body and the nodes behind it (`Pending`). One tick keeps the relation (`agrees_tick`).
-/

namespace FarmScript.Structured
set_option autoImplicit false

/-! ## Lines in place -/

/-- Whether a script has the given lines from a position on. -/
def Shows (script : Script) (start : Nat) (lines : List String) : Prop :=
  ∀ i line, lines[i]? = some line → script.line? (start + i) = some line

variable {script : Script}

theorem shows_append {start : Nat} {lines more : List String} :
    Shows script start (lines ++ more) ↔
      Shows script start lines ∧ Shows script (start + lines.length) more := by
  constructor
  · intro h
    refine ⟨fun i line hi => h i line ?_, fun i line hi => ?_⟩
    · rw [List.getElem?_append_left (List.getElem?_eq_some_iff.mp hi).1]
      exact hi
    · rw [Nat.add_assoc]
      apply h
      rw [List.getElem?_append_right (Nat.le_add_right _ _), Nat.add_sub_cancel_left]
      exact hi
  · rintro ⟨hlines, hmore⟩ i line hi
    by_cases hlt : i < lines.length
    · rw [List.getElem?_append_left hlt] at hi
      exact hlines i line hi
    · rw [List.getElem?_append_right (by omega)] at hi
      have hline := hmore (i - lines.length) line hi
      rwa [show start + lines.length + (i - lines.length) = start + i by omega] at hline

theorem shows_cons {start : Nat} {line : String} {lines : List String} :
    Shows script start (line :: lines) ↔
      script.line? start = some line ∧ Shows script (start + 1) lines := by
  rw [← List.singleton_append, shows_append]
  refine and_congr ⟨fun h => h 0 line rfl, fun h i line' hi => ?_⟩ Iff.rfl
  cases i with
  | zero =>
    cases hi
    exact h
  | succ i => cases hi

theorem shows_leaf {start depth : Nat} {leaf : Leaf} {rest : List Node} :
    Shows script start (linesOf (.leaf leaf :: rest) depth) ↔
      script.line? start = some (indented depth leaf.text) ∧
        Shows script (start + 1) (linesOf rest depth) := by
  rw [linesOf, Node.lines, List.singleton_append, shows_cons]

theorem shows_block {start depth : Nat} {header : Header} {body rest : List Node} :
    Shows script start (linesOf (.block header body :: rest) depth) ↔
      script.line? start = some (indented depth header.text) ∧
        Shows script (start + 1) (linesOf body (depth + 1)) ∧
        Shows script (start + 1 + (linesOf body (depth + 1)).length) (linesOf rest depth) := by
  rw [linesOf, Node.lines, List.cons_append, shows_cons, shows_append]

theorem add_length_leaf (start depth : Nat) (leaf : Leaf) (rest : List Node) :
    start + (linesOf (.leaf leaf :: rest) depth).length =
      start + 1 + (linesOf rest depth).length := by
  rw [linesOf, Node.lines, List.length_append, List.length_singleton, Nat.add_assoc]

theorem add_length_block (start depth : Nat) (header : Header) (body rest : List Node) :
    start + (linesOf (.block header body :: rest) depth).length =
      start + 1 + (linesOf body (depth + 1)).length + (linesOf rest depth).length := by
  rw [linesOf, Node.lines, List.length_append, List.length_cons]
  omega

theorem closes_of_shows {start depth : Nat} {nodes : List Node}
    (hshows : Shows script start (linesOf nodes depth))
    (hstop : script.Closes (4 * depth) (start + (linesOf nodes depth).length)) :
    script.Closes (4 * depth) start := by
  cases nodes with
  | nil => simpa [linesOf] using hstop
  | cons node rest =>
    cases node with
    | leaf leaf =>
      refine ⟨_, ?_, Nat.le_of_eq (indentOf_leaf leaf depth)⟩
      exact Script.closingIndent?_of_line (shows_leaf.mp hshows).1 (isSkippable_leaf leaf depth)
    | block header body =>
      exact ⟨_, Script.closingIndent?_of_line (shows_block.mp hshows).1
          (isSkippable_header header depth),
        Nat.le_of_eq (indentOf_header header depth)⟩

/-- The block of a header ends right after its body. -/
theorem blockEnd_of_shows {header depth : Nat} {line : String} {body : List Node}
    (hline : script.line? header = some line)
    (hbody : Shows script (header + 1) (linesOf body (depth + 1)))
    (hstop : script.Closes (4 * depth) (header + 1 + (linesOf body (depth + 1)).length)) :
    script.blockEnd header (4 * depth) = header + 1 + (linesOf body (depth + 1)).length := by
  apply Nat.le_antisymm (Script.blockEnd_le_of_closes (by omega) hstop)
  by_contra hlt
  have hafter := Script.lt_blockEnd (4 * depth) (Script.lt_length_of_line? hline)
  obtain ⟨i, hi⟩ : ∃ i, script.blockEnd header (4 * depth) = header + 1 + i :=
    ⟨script.blockEnd header (4 * depth) - (header + 1), by omega⟩
  have hlen : i < (linesOf body (depth + 1)).length := by omega
  obtain ⟨inner, hinner⟩ : ∃ inner, (linesOf body (depth + 1))[i]? = some inner :=
    ⟨_, List.getElem?_eq_getElem hlen⟩
  -- a line of the body says something and is indented deeper than the header
  obtain ⟨hskip, hdeep⟩ :=
    isDeep_of_mem_linesOf body (depth + 1) inner (List.mem_of_getElem? hinner)
  have hcloses : script.Closes (4 * depth) (script.blockEnd header (4 * depth)) :=
    Script.closes_blockEnd header _
  obtain ⟨k, hk, hle⟩ := hcloses
  rw [hi, Script.closingIndent?_of_line (hbody i inner hinner) hskip] at hk
  cases hk
  omega

/-! ## What is left to do -/

/-- How an open block goes on after its body: the header and body it belongs to, its kind with the
passes counted so far, and the tasks that come before the nodes behind the block. -/
inductive Resumes (inside : Bool) (body : List Node) : Header → Block.Kind → List Task → Prop
  | ifThen (guard : Guard) : Resumes inside body (.ifThen guard) .ifThen []
  | elseThen : Resumes inside body .elseThen .elseThen []
  | whileLoop (guard : Guard) : Resumes inside body (.whileLoop guard) .whileLoop
      [.idle inside, .node inside (.block (.whileLoop guard) body)]
  | forLoop (iteration count : UInt32) : Resumes inside body (.forLoop count)
      (.forLoop iteration count) (passes body (max count.toNat 1 - 1 - iteration.toNat))

/-- The tasks that are left at the end of a body, given its depth, its end and the open blocks. -/
inductive Pending (script : Script) : (depth stop : Nat) → Nesting → List Task → Prop
  | root : Pending script 0 script.length [] []
  | block {depth line : Nat} {header : Header} {body rest : List Node} {kind : Block.Kind}
      {left tasks : List Task} {outer : Nesting}
      (hline : script.line? line = some (indented depth header.text))
      (hbody : Shows script (line + 1) (linesOf body (depth + 1)))
      (hrest : Shows script (line + 1 + (linesOf body (depth + 1)).length) (linesOf rest depth))
      (houter : Pending script depth
        (line + 1 + (linesOf body (depth + 1)).length + (linesOf rest depth).length) outer tasks)
      (hleft : Resumes (!outer.isEmpty) body header kind left) :
      Pending script (depth + 1) (line + 1 + (linesOf body (depth + 1)).length)
        (⟨kind, line, 4 * depth⟩ :: outer) (left ++ (tasksOf (!outer.isEmpty) rest ++ tasks))

theorem Pending.closes {depth stop : Nat} {nesting : Nesting} {tasks : List Task}
    (h : Pending script depth stop nesting tasks) : script.Closes (4 * depth) stop := by
  induction h with
  | root => exact ⟨0, Script.closingIndent?_of_length_le (Nat.le_refl _), Nat.zero_le _⟩
  | block hline hbody hrest houter hleft ih =>
    exact (closes_of_shows hrest ih).mono (by omega)

theorem Pending.indent_lt {depth stop : Nat} {nesting : Nesting} {tasks : List Task}
    (h : Pending script depth stop nesting tasks) :
    ∀ block ∈ nesting.head?, block.indent < 4 * depth := by
  cases h with
  | root => simp
  | block => simp

theorem Pending.stop_eq_length {depth stop : Nat} {nesting : Nesting} {tasks : List Task}
    (h : Pending script depth stop nesting tasks) (htasks : tasks = []) : stop = script.length := by
  induction h with
  | root => rfl
  | @block depth line header body rest kind left tasks outer hline hbody hrest houter hleft ih =>
    simp only [tasksOf, List.append_eq_nil_iff, List.map_eq_nil_iff] at htasks
    obtain ⟨-, rfl, htasks⟩ := htasks
    simpa [linesOf] using ih htasks

theorem Pending.of_nil {depth stop : Nat} {tasks : List Task}
    (h : Pending script depth stop [] tasks) : stop = script.length ∧ tasks = [] := by
  cases h with
  | root => exact ⟨rfl, rfl⟩

/-- A program and the tasks it still has to do: first the nodes from the cursor on, then what is
pending at the end of the body they stand in. -/
inductive Follows (script : Script) (program : Program) (tasks : List Task) : Prop
  | intro (depth : Nat) (nodes : List Node) (done outer : Nesting) (later : List Task)
      (hnesting : program.nesting = done ++ outer)
      (hdone : ∀ block ∈ done, block.LeftBy (4 * depth))
      (hshows : Shows script program.cursor (linesOf nodes depth))
      (hpending : Pending script depth (program.cursor + (linesOf nodes depth).length) outer later)
      (htasks : tasks = tasksOf (!outer.isEmpty) nodes ++ later)

/-- A farm and a program that agree with an evaluation. -/
structure Agrees (script : Script) (world : World) (program : Program) (progress : Progress) :
    Prop where
  world_eq : world = progress.world
  inside_eq : progress.inside = !program.nesting.isEmpty
  follows : Follows script program progress.tasks

/-! ## One tick -/

section Tick
variable (rules : Rules) {world : World} {program : Program} {inside : Bool} {depth : Nat}
  {done outer : Nesting} {later : List Task} {rest : List Node}

theorem close_of_pending {stop : Nat} (hnesting : program.nesting = done ++ outer)
    (hdone : ∀ block ∈ done, block.LeftBy (4 * depth))
    (hpending : Pending script depth stop outer later) :
    program.nesting.close (4 * depth) = .fellThrough outer := by
  rw [hnesting, Nesting.close_append_leftBy done outer hdone]
  exact Nesting.close_of_deeper hpending.indent_lt

theorem agrees_tick_leaf {leaf : Leaf} (hnesting : program.nesting = done ++ outer)
    (hdone : ∀ block ∈ done, block.LeftBy (4 * depth))
    (hline : script.line? program.cursor = some (indented depth leaf.text))
    (hrest : Shows script (program.cursor + 1) (linesOf rest depth))
    (hpending : Pending script depth (program.cursor + 1 + (linesOf rest depth).length)
      outer later) :
    Agrees script (tick rules script world program).world (tick rules script world program).program
      (Progress.unit rules
        ⟨.node (!outer.isEmpty) (.leaf leaf) :: (tasksOf (!outer.isEmpty) rest ++ later), world,
          inside⟩) := by
  have hclose := close_of_pending hnesting hdone hpending
  rw [← indentOf_leaf leaf depth] at hclose
  have hplain : (Statement.classify leaf.text).blockKind? = none := by
    have hleaf := leaf.plain
    cases hstatement : Statement.classify leaf.text <;>
      simp_all [Statement.isPlain, Statement.blockKind?]
  have htick := tick_eq_dispatched rules world hline (isSkippable_leaf leaf depth) hclose
  rw [classify_indented] at htick
  have hprogram : (tick rules script world program).program = ⟨program.cursor + 1, outer⟩ := by
    rw [htick, dispatch_program, hplain]
    rfl
  have hworld : (tick rules script world program).world =
      (Statement.classify leaf.text).effect rules (world.grow rules.growthStep) := by
    rw [htick, dispatch_world]
  rw [hprogram, hworld]
  exact ⟨rfl, rfl, .intro depth rest [] outer later rfl (by simp) hrest hpending rfl⟩

theorem exists_resumes (inside : Bool) (body : List Node) (header : Header) :
    ∃ kind, header.statement.blockKind? = some kind ∧
      Resumes inside body header kind (header.afterBody inside body) := by
  cases header with
  | forLoop count => exact ⟨_, rfl, .forLoop 0 count⟩
  | whileLoop guard => exact ⟨_, rfl, .whileLoop guard⟩
  | ifThen guard => exact ⟨_, rfl, .ifThen guard⟩
  | elseThen => exact ⟨_, rfl, .elseThen⟩

theorem agrees_tick_block {header : Header} {body : List Node}
    (hnesting : program.nesting = done ++ outer)
    (hdone : ∀ block ∈ done, block.LeftBy (4 * depth))
    (hline : script.line? program.cursor = some (indented depth header.text))
    (hbody : Shows script (program.cursor + 1) (linesOf body (depth + 1)))
    (hrest : Shows script (program.cursor + 1 + (linesOf body (depth + 1)).length)
      (linesOf rest depth))
    (hpending : Pending script depth
      (program.cursor + 1 + (linesOf body (depth + 1)).length + (linesOf rest depth).length)
      outer later) :
    Agrees script (tick rules script world program).world (tick rules script world program).program
      (Progress.unit rules
        ⟨.node (!outer.isEmpty) (.block header body) :: (tasksOf (!outer.isEmpty) rest ++ later),
          world, inside⟩) := by
  have hclose := close_of_pending hnesting hdone hpending
  rw [← indentOf_header header depth] at hclose
  obtain ⟨kind, hkind, hresumes⟩ := exists_resumes (!outer.isEmpty) body header
  have htick := tick_eq_dispatched rules world hline (isSkippable_header header depth) hclose
  rw [classify_indented, classify_text, indentOf_header] at htick
  have hworld : (tick rules script world program).world = world.grow rules.growthStep := by
    rw [htick, dispatch_world]
    cases header <;> rfl
  have hprogram : (tick rules script world program).program =
      if header.isEntered (world.grow rules.growthStep) then
        ⟨program.cursor + 1, ⟨kind, program.cursor, 4 * depth⟩ :: outer⟩
      else ⟨script.blockEnd program.cursor (4 * depth), outer⟩ := by
    rw [htick, dispatch_program, hkind, isEntered_statement]
    rfl
  rw [hworld, hprogram]
  cases hentered : header.isEntered (world.grow rules.growthStep) with
  | true =>
    simp only [Progress.unit, hentered, if_true, List.append_assoc]
    exact ⟨rfl, rfl, .intro (depth + 1) body [] _ _ rfl (by simp) hbody
      (.block hline hbody hrest hpending hresumes) rfl⟩
  | false =>
    simp only [Progress.unit, hentered, Bool.false_eq_true, if_false]
    have hstop := blockEnd_of_shows hline hbody (closes_of_shows hrest hpending.closes)
    rw [hstop]
    exact ⟨rfl, rfl, .intro depth rest [] outer later rfl (by simp) hrest hpending rfl⟩

theorem agrees_tick_cons {node : Node} (hnesting : program.nesting = done ++ outer)
    (hdone : ∀ block ∈ done, block.LeftBy (4 * depth))
    (hshows : Shows script program.cursor (linesOf (node :: rest) depth))
    (hpending : Pending script depth
      (program.cursor + (linesOf (node :: rest) depth).length) outer later) :
    Agrees script (tick rules script world program).world (tick rules script world program).program
      (Progress.unit rules
        ⟨tasksOf (!outer.isEmpty) (node :: rest) ++ later, world, inside⟩) := by
  cases node with
  | leaf leaf =>
    rw [add_length_leaf] at hpending
    obtain ⟨hline, hrest⟩ := shows_leaf.mp hshows
    exact agrees_tick_leaf rules hnesting hdone hline hrest hpending
  | block header body =>
    rw [add_length_block] at hpending
    obtain ⟨hline, hbody, hrest⟩ := shows_block.mp hshows
    exact agrees_tick_block rules hnesting hdone hline hbody hrest hpending

theorem agrees_tick_while {line : Nat} {guard : Guard} {body : List Node}
    (hnesting : program.nesting = done ++ ⟨.whileLoop, line, 4 * depth⟩ :: outer)
    (hdone : ∀ block ∈ done, block.LeftBy (4 * (depth + 1)))
    (hcursor : program.cursor = line + 1 + (linesOf body (depth + 1)).length)
    (hline : script.line? line = some (indented depth (Header.whileLoop guard).text))
    (hbody : Shows script (line + 1) (linesOf body (depth + 1)))
    (hrest : Shows script (line + 1 + (linesOf body (depth + 1)).length) (linesOf rest depth))
    (houter : Pending script depth
      (line + 1 + (linesOf body (depth + 1)).length + (linesOf rest depth).length) outer later) :
    Agrees script (tick rules script world program).world (tick rules script world program).program
      (Progress.unit rules
        ⟨[.idle (!outer.isEmpty), .node (!outer.isEmpty) (.block (.whileLoop guard) body)] ++
          (tasksOf (!outer.isEmpty) rest ++ later), world, inside⟩) := by
  obtain ⟨k, hk, hle⟩ := closes_of_shows hrest houter.closes
  rw [← hcursor] at hk
  have hclose : program.nesting.close k = .loopedBack line outer := by
    rw [hnesting, Nesting.close_append_leftBy done _ fun b hb => (hdone b hb).mono (by omega)]
    exact Nesting.close_whileLoop outer rfl hle
  rw [tick_eq_loopedBack rules world hk hclose]
  -- the loop starts over with its header, as the first of the nodes from there on
  rw [← add_length_block line depth (.whileLoop guard)] at houter
  exact ⟨rfl, rfl, .intro depth (.block (.whileLoop guard) body :: rest) [] outer later rfl
    (by simp) (shows_block.mpr ⟨hline, hbody, hrest⟩) houter rfl⟩

theorem passes_of_lt {body : List Node} {iteration count : UInt32}
    (hlt : iteration.toNat + 1 < count.toNat) :
    passes body (max count.toNat 1 - 1 - iteration.toNat) =
      .idle true :: (tasksOf true body ++
        passes body (max count.toNat 1 - 1 - (iteration + 1).toNat)) := by
  rw [toNat_add_one_of_lt hlt, show max count.toNat 1 - 1 - iteration.toNat =
    max count.toNat 1 - 1 - (iteration.toNat + 1) + 1 by omega]
  rfl

theorem agrees_tick_for {line : Nat} {iteration count : UInt32} {body : List Node}
    (hlt : iteration.toNat + 1 < count.toNat)
    (hnesting : program.nesting = done ++ ⟨.forLoop iteration count, line, 4 * depth⟩ :: outer)
    (hdone : ∀ block ∈ done, block.LeftBy (4 * (depth + 1)))
    (hcursor : program.cursor = line + 1 + (linesOf body (depth + 1)).length)
    (hline : script.line? line = some (indented depth (Header.forLoop count).text))
    (hbody : Shows script (line + 1) (linesOf body (depth + 1)))
    (hrest : Shows script (line + 1 + (linesOf body (depth + 1)).length) (linesOf rest depth))
    (houter : Pending script depth
      (line + 1 + (linesOf body (depth + 1)).length + (linesOf rest depth).length) outer later) :
    Agrees script (tick rules script world program).world (tick rules script world program).program
      (Progress.unit rules
        ⟨passes body (max count.toNat 1 - 1 - iteration.toNat) ++
          (tasksOf (!outer.isEmpty) rest ++ later), world, inside⟩) := by
  obtain ⟨k, hk, hle⟩ := closes_of_shows hrest houter.closes
  rw [← hcursor] at hk
  have hclose : program.nesting.close k =
      .loopedBack (line + 1) (⟨.forLoop (iteration + 1) count, line, 4 * depth⟩ :: outer) := by
    rw [hnesting, Nesting.close_append_leftBy done _ fun b hb => (hdone b hb).mono (by omega)]
    exact Nesting.close_forLoop outer rfl hle hlt
  rw [tick_eq_loopedBack rules world hk hclose, passes_of_lt hlt, List.cons_append,
    List.append_assoc]
  exact ⟨rfl, rfl, .intro (depth + 1) body [] _ _ rfl (by simp) hbody
    (.block hline hbody hrest houter (.forLoop (iteration + 1) count)) rfl⟩

theorem agrees_tick_root (hend : program.cursor = script.length)
    (hdone : ∀ block ∈ program.nesting, block.LeftBy 0) :
    Agrees script (tick rules script world program).world (tick rules script world program).program
      (Progress.unit rules ⟨[], world, inside⟩) := by
  have hstay (nesting : Nesting) (hnone : nesting = []) :
      Follows script ⟨program.cursor, nesting⟩ [] := by
    refine .intro 0 [] [] [] [] hnone (by simp) ?_ ?_ rfl
    · intro i line hi
      cases hi
    · simpa [linesOf, hend] using Pending.root
  by_cases hnone : program.nesting = []
  · rw [tick_eq_exhausted rules world (Nat.le_of_eq hend.symm) hnone]
    refine ⟨rfl, ?_, hstay _ hnone⟩
    simp [Progress.unit, Tick.moveTo, hnone]
  · have hclose : program.nesting.close 0 = .fellThrough [] := by
      have h := Nesting.close_append_leftBy program.nesting [] hdone
      rwa [List.append_nil] at h
    rw [tick_eq_closed rules world (Nat.le_of_eq hend.symm) hnone hclose]
    exact ⟨rfl, rfl, hstay [] rfl⟩

/-- At the end of a body the open blocks decide what comes next. The induction goes outwards over
them: a block that is done is closed by the same tick, so the case of the block around it applies,
with one block more to leave. -/
theorem agrees_tick_end {stop : Nat} (hpending : Pending script depth stop outer later) :
    ∀ (done : Nesting), program.nesting = done ++ outer →
      (∀ block ∈ done, block.LeftBy (4 * depth)) → program.cursor = stop →
      Agrees script (tick rules script world program).world
        (tick rules script world program).program
        (Progress.unit rules ⟨later, world, inside⟩) := by
  induction hpending with
  | root =>
    intro done hnesting hdone hcursor
    rw [List.append_nil] at hnesting
    exact agrees_tick_root rules hcursor (hnesting ▸ hdone)
  | @block depth line header body rest kind left later outer hline hbody hrest houter hleft ih =>
    intro done hnesting hdone hcursor
    have hleave (hblock : Block.isDone ⟨kind, line, 4 * depth⟩ = true) :
        Agrees script (tick rules script world program).world
          (tick rules script world program).program
          (Progress.unit rules ⟨tasksOf (!outer.isEmpty) rest ++ later, world, inside⟩) := by
      have hnesting' : program.nesting = (done ++ [⟨kind, line, 4 * depth⟩]) ++ outer := by
        rw [hnesting, List.append_assoc, List.singleton_append]
      have hdone' : ∀ block ∈ done ++ [⟨kind, line, 4 * depth⟩], block.LeftBy (4 * depth) := by
        intro block hmem
        rcases List.mem_append.mp hmem with hmem | hmem
        · exact (hdone block hmem).mono (by omega)
        · rw [List.mem_singleton.mp hmem]
          exact ⟨hblock, Nat.le_refl _⟩
      cases rest with
      | nil => exact ih _ hnesting' hdone' hcursor
      | cons node rest =>
        rw [← hcursor] at hrest houter
        exact agrees_tick_cons rules hnesting' hdone' hrest houter
    cases hleft with
    | ifThen guard => exact hleave rfl
    | elseThen => exact hleave rfl
    | whileLoop guard =>
      exact agrees_tick_while rules hnesting hdone hcursor hline hbody hrest houter
    | forLoop iteration count =>
      by_cases hlt : iteration.toNat + 1 < count.toNat
      · exact agrees_tick_for rules hlt hnesting hdone hcursor hline hbody hrest houter
      · rw [show max count.toNat 1 - 1 - iteration.toNat = 0 by omega]
        exact hleave (by simpa [Block.isDone] using hlt)

theorem agrees_tick {progress : Progress} (h : Agrees script world program progress) :
    Agrees script (tick rules script world program).world (tick rules script world program).program
      (progress.unit rules) := by
  obtain ⟨tasks, world', inside⟩ := progress
  obtain ⟨rfl, -, depth, nodes, done, outer, later, hnesting, hdone, hshows, hpending, rfl⟩ := h
  cases nodes with
  | nil => exact agrees_tick_end rules hpending done hnesting hdone rfl
  | cons node rest => exact agrees_tick_cons rules hnesting hdone hshows hpending

end Tick

/-! ## Whole runs -/

theorem agrees_start (nodes : List Node) (world : World) :
    Agrees (render nodes) world Program.start (Progress.start nodes world) := by
  have hshows : Shows (render nodes) 0 (linesOf nodes 0) := by
    intro i line hi
    rw [Nat.zero_add]
    simpa [render, Script.line?] using hi
  have hpending : Pending (render nodes) 0 (0 + (linesOf nodes 0).length) [] [] := by
    have hlength : 0 + (linesOf nodes 0).length = (render nodes).length := by
      simp [render, Script.length]
    rw [hlength]
    exact .root
  exact ⟨rfl, rfl, .intro 0 nodes [] [] [] rfl (by simp) hshows hpending (by simp [Progress.start])⟩

theorem agrees_stateAfter (rules : Rules) (nodes : List Node) (world : World) (n : Nat) :
    Agrees (render nodes) (stateAfter rules (render nodes) world Program.start n).1
      (stateAfter rules (render nodes) world Program.start n).2 (evaluate rules nodes world n) := by
  induction n with
  | zero => exact agrees_start nodes world
  | succ n ih => exact agrees_tick rules ih

theorem eq_nil_of_length_linesOf {nodes : List Node} {depth : Nat}
    (h : (linesOf nodes depth).length = 0) : nodes = [] := by
  cases nodes with
  | nil => rfl
  | cons node rest =>
    cases node with
    | leaf leaf =>
      have := add_length_leaf 0 depth leaf rest
      omega
    | block header body =>
      have := add_length_block 0 depth header body rest
      omega

theorem Agrees.cursor_eq_length {world : World} {program : Program} {progress : Progress}
    (h : Agrees script world program progress) (htasks : progress.tasks = []) :
    program.cursor = script.length := by
  obtain ⟨depth, nodes, done, outer, later, -, -, -, hpending, hall⟩ := h.follows
  rw [htasks, tasksOf] at hall
  obtain ⟨hnodes, hlater⟩ := List.append_eq_nil_iff.mp hall.symm
  obtain rfl := List.map_eq_nil_iff.mp hnodes
  exact hpending.stop_eq_length hlater

theorem Agrees.exhausted_iff {world : World} {program : Program} {progress : Progress}
    (h : Agrees script world program progress) :
    script.length ≤ program.cursor ∧ program.nesting = [] ↔
      progress.tasks = [] ∧ progress.inside = false := by
  rw [h.inside_eq]
  constructor
  · rintro ⟨hend, hnone⟩
    refine ⟨?_, by simp [hnone]⟩
    obtain ⟨depth, nodes, done, outer, later, hnesting, -, -, hpending, hall⟩ := h.follows
    rw [hnone] at hnesting
    obtain ⟨rfl, rfl⟩ := List.append_eq_nil_iff.mp hnesting.symm
    obtain ⟨hstop, rfl⟩ := hpending.of_nil
    have hlength : (linesOf nodes depth).length = 0 := by omega
    obtain rfl := eq_nil_of_length_linesOf hlength
    exact hall
  · rintro ⟨htasks, hinside⟩
    exact ⟨Nat.le_of_eq (h.cursor_eq_length htasks).symm, by simpa using hinside⟩

/-- Headers can ask every condition. After every number of ticks the farm is the one that the
evaluator has after as many units. The tick that comes then finds the script exhausted exactly when
the evaluator has no task left and its last unit was not spent inside a block: the blocks that are
open after the last task take one more tick to close. -/
theorem ticks_evaluate (rules : Rules) (nodes : List Node) (world : World) (n : Nat) :
    (∀ condition : Condition, ∃ guard : Guard, guard.condition = condition) ∧
      (stateAfter rules (render nodes) world Program.start n).1 =
        (evaluate rules nodes world n).world ∧
      ((tickAfter rules (render nodes) world Program.start n).status = .exhausted ↔
        (evaluate rules nodes world n).tasks = [] ∧
          (evaluate rules nodes world n).inside = false) ∧
      ((evaluate rules nodes world n).tasks = [] →
        (stateAfter rules (render nodes) world Program.start n).2.cursor =
          (render nodes).length) := by
  have hagrees := agrees_stateAfter rules nodes world n
  refine ⟨exists_guard, hagrees.world_eq, ?_, hagrees.cursor_eq_length⟩
  rw [tickAfter, tick_status_eq_exhausted_iff]
  exact hagrees.exhausted_iff

end FarmScript.Structured
