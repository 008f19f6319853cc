import FarmScript.Proofs.Machine.Enclosure

/-! # Scripts without live `while` loops come to an end

The next line goes back at every further pass of a `for` loop, and an inner loop starts anew with
every pass of an outer one. What goes down is a number (`Program.rank`) with one digit for each
line of the script, the first line's digit being the most significant: how often the line has still
to be dealt with, as far as the open blocks and the next line tell (`Program.digit`). A tick lowers
one digit and keeps the digits before it; a last binary digit stands for the tick that closes the
blocks behind the last line.
-/

namespace FarmScript
set_option autoImplicit false

/-- Whether no `while` header of a script can ever be entered: its condition is the literal `False`
or unknown. -/
def Script.HasNoLiveWhile (script : Script) : Prop :=
  ∀ line ∈ script.lines, ∀ condition, Statement.classify line = .whileLoop condition →
    condition = .literal false ∨ condition = .unknown

/-! ## Numbers by their digits -/

/-- The number whose first `n` digits in a base are given, the most significant first. -/
def weigh (base : Nat) (digit : Nat → Nat) : Nat → Nat
  | 0 => 0
  | n + 1 => base * weigh base digit n + digit n

theorem weigh_congr {base : Nat} {digit digit' : Nat → Nat} {n : Nat}
    (h : ∀ i < n, digit' i = digit i) : weigh base digit' n = weigh base digit n := by
  induction n with
  | zero => rfl
  | succ n ih => rw [weigh, weigh, ih fun i hi => h i (by omega), h n (by omega)]

/-- The first digit that changes decides. -/
theorem weigh_lt_weigh {base : Nat} {digit digit' : Nat → Nat} {n i : Nat} (hi : i < n)
    (hsame : ∀ j < i, digit' j = digit j) (hlt : digit' i < digit i)
    (hbound : ∀ j, digit' j < base) : weigh base digit' n < weigh base digit n := by
  induction n with
  | zero => omega
  | succ n ih =>
    rw [weigh, weigh]
    rcases Nat.lt_or_eq_of_le (Nat.le_of_lt_succ hi) with hbefore | rfl
    · have hdigit := hbound n
      have hstep : base * (weigh base digit' n + 1) ≤ base * weigh base digit n :=
        Nat.mul_le_mul_left base (ih hbefore)
      rw [Nat.mul_succ] at hstep
      omega
    · rw [weigh_congr hsame]
      omega

/-! ## The passes that are left -/

/-- How many passes are to come, after the current one, of an open block that is no `while`
loop. -/
def Block.passesLeft (block : Block) : Nat :=
  match block.kind with
  | .forLoop iteration target => max target.toNat 1 - 1 - iteration.toNat
  | .whileLoop | .ifThen | .elseThen => 0

/-- How many passes are to come of the open blocks whose header is in line `i`. -/
def Nesting.passesLeft (i : Nat) : Nesting → Nat
  | [] => 0
  | block :: outer => (if block.line = i then block.passesLeft else 0) + passesLeft i outer

/-- How often a line that is met has to be dealt with: a `for` header once for each pass. -/
def Script.passesAt (script : Script) (i : Nat) : Nat :=
  match (script.line? i).map Statement.classify with
  | some (.forLoop count) => max count.toNat 1
  | _ => 1

theorem Block.passesLeft_eq_zero_of_isDone {block : Block} (h : block.isDone = true) :
    block.passesLeft = 0 := by
  obtain ⟨kind, line, indent⟩ := block
  cases kind with
  | forLoop iteration target =>
    simp only [Block.isDone, decide_eq_true_eq] at h
    simp only [Block.passesLeft]
    omega
  | whileLoop => rfl
  | ifThen => rfl
  | elseThen => rfl

theorem Block.passesLeft_lt (block : Block) : block.passesLeft < UInt32.size := by
  have hsize : 0 < UInt32.size := by decide
  obtain ⟨kind, line, indent⟩ := block
  cases kind with
  | forLoop iteration target =>
    have htarget : target.toNat < UInt32.size := target.toNat_lt
    simp only [Block.passesLeft]
    omega
  | whileLoop => exact hsize
  | ifThen => exact hsize
  | elseThen => exact hsize

theorem Script.passesAt_pos (script : Script) (i : Nat) : 0 < script.passesAt i := by
  unfold passesAt
  split <;> omega

theorem Script.passesAt_lt (script : Script) (i : Nat) : script.passesAt i < UInt32.size := by
  have hsize : 1 < UInt32.size := by decide
  unfold passesAt
  split
  · next count _ =>
    have hcount : count.toNat < UInt32.size := count.toNat_lt
    omega
  · exact hsize

namespace Nesting

theorem passesLeft_append (i : Nat) (inner outer : Nesting) :
    passesLeft i (inner ++ outer) = passesLeft i inner + passesLeft i outer := by
  induction inner with
  | nil => exact (Nat.zero_add _).symm
  | cons block inner ih => rw [List.cons_append, passesLeft, passesLeft, ih, Nat.add_assoc]

theorem passesLeft_eq_zero {i : Nat} {nesting : Nesting}
    (h : ∀ block ∈ nesting, block.line = i → block.passesLeft = 0) : passesLeft i nesting = 0 := by
  induction nesting with
  | nil => rfl
  | cons block outer ih =>
    have houter : passesLeft i outer = 0 := ih fun b hb => h b (List.mem_cons_of_mem block hb)
    rw [passesLeft, houter, Nat.add_zero, ite_eq_right_iff]
    exact h block List.mem_cons_self

theorem passesLeft_eq_zero_of_ne {i : Nat} {nesting : Nesting}
    (h : ∀ block ∈ nesting, block.line ≠ i) : passesLeft i nesting = 0 :=
  passesLeft_eq_zero fun block hmem hline => absurd hline (h block hmem)

theorem passesLeft_append_leftBy {indent : Nat} (i : Nat) {done : Nesting} (rest : Nesting)
    (h : ∀ block ∈ done, block.LeftBy indent) :
    passesLeft i (done ++ rest) = passesLeft i rest := by
  have hdone : passesLeft i done = 0 :=
    passesLeft_eq_zero fun block hmem _ => Block.passesLeft_eq_zero_of_isDone (h block hmem).1
  rw [passesLeft_append, hdone, Nat.zero_add]

theorem passesLeft_lt {nesting : Nesting} (i : Nat)
    (hordered : nesting.Pairwise fun inner outer =>
      outer.line < inner.line ∧ outer.indent < inner.indent) :
    passesLeft i nesting < UInt32.size := by
  induction nesting with
  | nil => exact Nat.zero_lt_succ _
  | cons block outer ih =>
    obtain ⟨hbelow, houter⟩ := List.pairwise_cons.mp hordered
    rw [passesLeft]
    by_cases hline : block.line = i
    · have hzero : passesLeft i outer = 0 := by
        apply passesLeft_eq_zero_of_ne
        intro b hb
        have := (hbelow b hb).1
        omega
      rw [if_pos hline, hzero]
      exact block.passesLeft_lt
    · rw [if_neg hline, Nat.zero_add]
      exact ih houter

end Nesting

/-! ## The rank of a program -/

namespace Program
variable {script : Script}

/-- How often a line has still to be dealt with: the passes to come if its block is open, and all of
them if the line is not behind. -/
def digit (script : Script) (program : Program) (i : Nat) : Nat :=
  program.nesting.passesLeft i + if program.cursor ≤ i then script.passesAt i else 0

/-- The number that every tick lowers. -/
def rank (script : Script) (program : Program) : Nat :=
  2 * weigh UInt32.size (program.digit script) script.length +
    if program.nesting = [] then 0 else 1

theorem Enclosed.passesLeft_eq_zero {program : Program} (h : program.Enclosed script) {i : Nat}
    (hi : program.cursor ≤ i) : program.nesting.passesLeft i = 0 := by
  apply Nesting.passesLeft_eq_zero_of_ne
  intro block hmem
  have := (h.inside block hmem).1
  omega

theorem Enclosed.digit_lt {program : Program} (h : program.Enclosed script) (i : Nat) :
    program.digit script i < UInt32.size := by
  unfold digit
  split
  · next hi =>
    rw [h.passesLeft_eq_zero hi, Nat.zero_add]
    exact script.passesAt_lt i
  · exact Nesting.passesLeft_lt i h.ordered

theorem rank_lt_rank {program next : Program} (hnext : next.Enclosed script) {i : Nat}
    (hi : i < script.length) (hsame : ∀ j < i, next.digit script j = program.digit script j)
    (hlt : next.digit script i < program.digit script i) :
    next.rank script < program.rank script := by
  have hweigh := weigh_lt_weigh hi hsame hlt hnext.digit_lt
  unfold rank
  split <;> split <;> omega

/-- A program that leaves a line behind has a lower rank if fewer passes of the line are to come
than when the line was met. -/
theorem Enclosed.rank_lt_of_passed {program next : Program} (h : program.Enclosed script)
    (hnext : next.Enclosed script) (hlength : program.cursor < script.length)
    (hcursor : program.cursor < next.cursor)
    (hsame : ∀ j < program.cursor, next.nesting.passesLeft j = program.nesting.passesLeft j)
    (hlt : next.nesting.passesLeft program.cursor < script.passesAt program.cursor) :
    next.rank script < program.rank script := by
  refine rank_lt_rank hnext hlength ?_ ?_
  · intro j hj
    unfold digit
    rw [hsame j hj, if_neg (by omega), if_neg (by omega)]
  · unfold digit
    rw [if_neg (by omega), if_pos le_rfl, h.passesLeft_eq_zero le_rfl]
    omega

end Program

/-! ## Ticks -/

/-- Whether no open block is a `while` loop. -/
def Program.HasNoWhile (program : Program) : Prop :=
  ∀ block ∈ program.nesting, block.kind ≠ .whileLoop

section Tick
variable {script : Script} {program : Program} (rules : Rules) (world : World)

theorem Script.HasNoLiveWhile.kind_ne (hscript : script.HasNoLiveWhile) {i : Nat} {line : String}
    {kind : Block.Kind} {world : World} (hline : script.line? i = some line)
    (hkind : (Statement.classify line).blockKind? = some kind)
    (hentered : (Statement.classify line).isEntered world = true) : kind ≠ .whileLoop := by
  rintro rfl
  cases hstatement : Statement.classify line with
  | whileLoop condition =>
    rw [hstatement] at hentered
    have hmem : line ∈ script.lines := Array.mem_of_getElem? hline
    rcases hscript line hmem condition hstatement with rfl | rfl
    · cases hentered
    · cases hentered
  | _ =>
    rw [hstatement] at hkind
    cases hkind

theorem hasNoWhile_tick (hscript : script.HasNoLiveWhile) (h : program.HasNoWhile) :
    (tick rules script world program).program.HasNoWhile := by
  have hfall {indent : Nat} {rest : Nesting}
      (hclose : program.nesting.close indent = .fellThrough rest) :
      ∀ block ∈ rest, block.kind ≠ .whileLoop := by
    obtain ⟨done, hnesting, -, -⟩ := Nesting.exists_of_close_eq_fellThrough hclose
    intro block hmem
    exact h block (hnesting ▸ List.mem_append_right done hmem)
  cases tick_move rules script world program with
  | exhausted hend hnone hnext =>
    rw [hnext]
    exact h
  | passed hline hskip hnext =>
    rw [hnext]
    exact h
  | loopedBack hindent hclose hnext =>
    obtain ⟨done, block, outer, hnesting, -, -, hloop⟩ :=
      Nesting.exists_of_close_eq_loopedBack hclose
    have hblock : block.kind ≠ .whileLoop := h block (by simp [hnesting])
    rcases hloop with ⟨hwhile, -, -⟩ | ⟨iteration, target, -, -, -, rfl⟩
    · exact absurd hwhile hblock
    · rw [hnext]
      intro b hb
      rcases List.mem_cons.mp hb with rfl | hb
      · exact Block.Kind.noConfusion
      · exact h b (by simp [hnesting, hb])
  | closed hend hopen hclose hnext =>
    rw [hnext]
    exact hfall hclose
  | advanced hline hskip hclose hkind hnext =>
    rw [hnext]
    exact hfall hclose
  | entered hline hskip hclose hkind hguard hnext =>
    rw [hnext]
    intro b hb
    rcases List.mem_cons.mp hb with rfl | hb
    · exact hscript.kind_ne hline hkind hguard
    · exact hfall hclose b hb
  | skipped hline hskip hclose hkind hguard hnext =>
    rw [hnext]
    exact hfall hclose

theorem rank_loopedBack {indent cursor : Nat} {nesting : Nesting} (h : program.Enclosed script)
    (hwhile : program.HasNoWhile) (hnext : Program.Enclosed script ⟨cursor, nesting⟩)
    (hclose : program.nesting.close indent = .loopedBack cursor nesting) :
    Program.rank script ⟨cursor, nesting⟩ < program.rank script := by
  obtain ⟨done, block, outer, hnesting, hdone, -, hloop⟩ :=
    Nesting.exists_of_close_eq_loopedBack hclose
  have hmem : block ∈ program.nesting := by simp [hnesting]
  rcases hloop with ⟨hkind, -, -⟩ | ⟨iteration, target, hkind, hlt, rfl, rfl⟩
  · exact absurd hkind (hwhile block hmem)
  · -- the digit of the loop's header goes down by one, and every header before it keeps its digit
    have hinside := h.inside block hmem
    have hleft (i : Nat) :
        program.nesting.passesLeft i = Nesting.passesLeft i (block :: outer) := by
      rw [hnesting, Nesting.passesLeft_append_leftBy i _ hdone]
    refine Program.rank_lt_rank hnext (h.headed block hmem).opens.lt_length ?_ ?_
    · intro j hj
      simp only [Program.digit, hleft, Nesting.passesLeft]
      rw [if_neg (by omega), if_neg (by omega), if_neg (by omega), if_neg (by omega)]
    · simp only [Program.digit, hleft, Nesting.passesLeft, if_true, Block.passesLeft, hkind,
        toNat_add_one_of_lt hlt]
      rw [if_neg (by omega), if_neg (by omega)]
      omega

theorem passesLeft_lt_passesAt {i indent : Nat} {line : String} {kind : Block.Kind}
    (hline : script.line? i = some line)
    (hkind : (Statement.classify line).blockKind? = some kind) :
    Block.passesLeft ⟨kind, i, indent⟩ < script.passesAt i := by
  cases hstatement : Statement.classify line with
  | forLoop count =>
    rw [hstatement] at hkind
    cases hkind
    simp only [Block.passesLeft, Script.passesAt, hline, Option.map_some, hstatement]
    omega
  | whileLoop condition =>
    rw [hstatement] at hkind
    cases hkind
    exact script.passesAt_pos i
  | ifThen condition =>
    rw [hstatement] at hkind
    cases hkind
    exact script.passesAt_pos i
  | elseThen =>
    rw [hstatement] at hkind
    cases hkind
    exact script.passesAt_pos i
  | _ =>
    rw [hstatement] at hkind
    cases hkind

theorem rank_closed (hopen : program.nesting ≠ [])
    (hclose : program.nesting.close 0 = .fellThrough []) :
    Program.rank script ⟨program.cursor, []⟩ < program.rank script := by
  obtain ⟨done, hnesting, hdone, -⟩ := Nesting.exists_of_close_eq_fellThrough hclose
  have hsame : ∀ i < script.length,
      Program.digit script ⟨program.cursor, []⟩ i = program.digit script i := by
    intro i _
    unfold Program.digit
    rw [hnesting, Nesting.passesLeft_append_leftBy i [] hdone]
  have hweigh : weigh UInt32.size (Program.digit script ⟨program.cursor, []⟩) script.length =
      weigh UInt32.size (program.digit script) script.length := weigh_congr hsame
  unfold Program.rank
  rw [hweigh, if_pos rfl, if_neg hopen]
  omega

theorem rank_tick_lt (h : program.Enclosed script) (hwhile : program.HasNoWhile)
    (hrunning : ¬ (script.length ≤ program.cursor ∧ program.nesting = [])) :
    (tick rules script world program).program.rank script < program.rank script := by
  have hnext' := h.tick rules world
  have hzero : program.nesting.passesLeft program.cursor = 0 := h.passesLeft_eq_zero le_rfl
  have hfall {indent : Nat} {rest : Nesting}
      (hclose : program.nesting.close indent = .fellThrough rest) (i : Nat) :
      rest.passesLeft i = program.nesting.passesLeft i := by
    obtain ⟨done, hnesting, hdone, -⟩ := Nesting.exists_of_close_eq_fellThrough hclose
    rw [hnesting, Nesting.passesLeft_append_leftBy i rest hdone]
  have hpos := script.passesAt_pos program.cursor
  cases tick_move rules script world program with
  | exhausted hend hnone hnext => exact absurd ⟨hend, hnone⟩ hrunning
  | passed hline hskip hnext =>
    rw [hnext] at hnext' ⊢
    exact h.rank_lt_of_passed hnext' (Script.lt_length_of_line? hline) (Nat.lt_succ_self _)
      (fun j _ => rfl) (hzero ▸ hpos)
  | loopedBack hindent hclose hnext =>
    rw [hnext] at hnext' ⊢
    exact rank_loopedBack h hwhile hnext' hclose
  | closed hend hopen hclose hnext =>
    rw [hnext]
    exact rank_closed hopen hclose
  | advanced hline hskip hclose hkind hnext =>
    rw [hnext] at hnext' ⊢
    exact h.rank_lt_of_passed hnext' (Script.lt_length_of_line? hline) (Nat.lt_succ_self _)
      (fun j _ => hfall hclose j) (by rw [hfall hclose, hzero]; exact hpos)
  | entered hline hskip hclose hkind hguard hnext =>
    rw [hnext] at hnext' ⊢
    refine h.rank_lt_of_passed hnext' (Script.lt_length_of_line? hline) (Nat.lt_succ_self _) ?_ ?_
    · intro j hj
      rw [Nesting.passesLeft, if_neg (by simp only; omega), Nat.zero_add, hfall hclose]
    · rw [Nesting.passesLeft, if_pos rfl, hfall hclose, hzero]
      exact passesLeft_lt_passesAt hline hkind
  | @skipped line nesting kind hline hskip hclose hkind hguard hnext =>
    have hlength := Script.lt_length_of_line? hline
    rw [hnext] at hnext' ⊢
    exact h.rank_lt_of_passed hnext' hlength (Script.lt_blockEnd (Script.indentOf line) hlength)
      (fun j _ => hfall hclose j) (by rw [hfall hclose, hzero]; exact hpos)

/-! ## Whole runs -/

theorem exists_exhausted_of_enclosed (hscript : script.HasNoLiveWhile)
    (h : program.Enclosed script) (hwhile : program.HasNoWhile) :
    ∃ n ≤ program.rank script, (tickAfter rules script world program n).status = .exhausted := by
  induction hrank : program.rank script using Nat.strong_induction_on
    generalizing world program with
  | _ rank ih =>
    by_cases hend : script.length ≤ program.cursor ∧ program.nesting = []
    · refine ⟨0, Nat.zero_le _, ?_⟩
      exact (tick_status_eq_exhausted_iff rules script world program).mpr hend
    · have hlt := rank_tick_lt rules world h hwhile hend
      rw [hrank] at hlt
      obtain ⟨n, hn, hstatus⟩ := ih _ hlt (tick rules script world program).world
        (h.tick rules world) (hasNoWhile_tick rules world hscript hwhile) rfl
      refine ⟨n + 1, Nat.lt_of_le_of_lt hn hlt, ?_⟩
      rw [tickAfter_succ_eq_tick]
      exact hstatus

end Tick

/-- A script without a `while` loop that can be entered is exhausted after finitely many ticks, on
every farm and by all rules: after no more than the rank of the script's start. -/
theorem exists_exhausted_of_hasNoLiveWhile (rules : Rules) (script : Script) (world : World)
    (hscript : script.HasNoLiveWhile) :
    ∃ n ≤ Program.start.rank script,
      (tickAfter rules script world Program.start n).status = .exhausted := by
  have hwhile : Program.start.HasNoWhile := by
    intro block hmem
    cases hmem
  exact exists_exhausted_of_enclosed rules world hscript .start hwhile

/-- Two nested loops of the largest number of passes each, with a dead `while` loop inside, are
finite. -/
theorem exists_exhausted_of_nested_loops :
    let script : Script :=
      ⟨#["for i in range(4294967295):", "  for j in range(4294967295):", "    while wet:",
        "      move()"]⟩
    script.HasNoLiveWhile ∧
      ∃ n, (tickAfter Rules.default script Rules.default.freshWorld Program.start n).status =
        .exhausted := by
  intro script
  have hscript : script.HasNoLiveWhile := by
    intro line hmem condition hclassify
    have hwhile : Statement.classify "    while wet:" = .whileLoop .unknown := by decide +kernel
    simp only [script, List.mem_toArray, List.mem_cons, List.not_mem_nil, or_false] at hmem
    rcases hmem with rfl | rfl | rfl | rfl
    · cases hclassify
    · cases hclassify
    · rw [hwhile] at hclassify
      cases hclassify
      exact .inr rfl
    · cases hclassify
  obtain ⟨n, -, hstatus⟩ := exists_exhausted_of_hasNoLiveWhile Rules.default script
    Rules.default.freshWorld hscript
  exact ⟨hscript, n, hstatus⟩

end FarmScript
