import FarmScript.Proofs.Machine.Enclosure

/-! # Only the order of indentations matters

Two scripts have one shape when their lines say the same and every line with a statement is
indented less, as much or more than another in one script exactly when it is in the other
(`Script.SameShape`). How deep the lines are indented is nowhere else looked at: positions close
the same blocks in both (`exists_closingIndent?`), so blocks have the same ends
(`blockEnd_indentAt`), and a tick of the one script is a tick of the other, the open blocks having
the indentations that their headers have there (`tick_reindented`).
-/

namespace FarmScript
set_option autoImplicit false

namespace Script

/-- Whether a line is neither empty nor a comment. -/
def hasStatement (script : Script) (i : Nat) : Bool :=
  (script.line? i).any fun line => !isSkippable line

def indentAt (script : Script) (i : Nat) : Nat := ((script.line? i).map indentOf).getD 0

/-- Whether two scripts have as many lines, line by line with the same statements, and whether the
lines that are neither empty nor comments are indented in the same order. -/
structure SameShape (script script' : Script) : Prop where
  statements_eq : script.lines.map Statement.classify = script'.lines.map Statement.classify
  indent_le_iff : ∀ i j, script.hasStatement i = true → script.hasStatement j = true →
    (script.indentAt i ≤ script.indentAt j ↔ script'.indentAt i ≤ script'.indentAt j)

theorem indentAt_of_line {script : Script} {i : Nat} {line : String}
    (h : script.line? i = some line) : script.indentAt i = indentOf line := by
  simp [indentAt, h]

theorem hasStatement_of_line {script : Script} {i : Nat} {line : String}
    (h : script.line? i = some line) (hskip : isSkippable line = false) :
    script.hasStatement i = true := by
  simp [hasStatement, h, hskip]

theorem lt_length_of_hasStatement {script : Script} {i : Nat}
    (h : script.hasStatement i = true) : i < script.length := by
  by_contra hlt
  have hline : script.line? i = none := line?_eq_none_iff.mpr (by omega)
  simp [hasStatement, hline] at h

theorem sameShape_iff (script script' : Script) :
    script.SameShape script' ↔
      script.lines.map Statement.classify = script'.lines.map Statement.classify ∧
        ∀ i < script.length, ∀ j < script.length, script.hasStatement i = true →
          script.hasStatement j = true →
            (script.indentAt i ≤ script.indentAt j ↔ script'.indentAt i ≤ script'.indentAt j) := by
  constructor
  · rintro ⟨hstatements, horder⟩
    exact ⟨hstatements, fun i _ j _ => horder i j⟩
  · rintro ⟨hstatements, horder⟩
    refine ⟨hstatements, fun i j hi hj => ?_⟩
    exact horder i (lt_length_of_hasStatement hi) j (lt_length_of_hasStatement hj) hi hj

instance (script script' : Script) : Decidable (script.SameShape script') :=
  decidable_of_iff' _ (sameShape_iff script script')

theorem isSkippable_eq_of_classify {line line' : String}
    (h : Statement.classify line = Statement.classify line') :
    isSkippable line = isSkippable line' := by
  rw [Bool.eq_iff_iff, ← Statement.classify_eq_blank_iff, ← Statement.classify_eq_blank_iff, h]

namespace SameShape
variable {script script' : Script}

theorem length_eq (h : script.SameShape script') : script.length = script'.length := by
  simpa [length] using congrArg Array.size h.statements_eq

theorem exists_line (h : script.SameShape script') {i : Nat} {line : String}
    (hline : script.line? i = some line) :
    ∃ line', script'.line? i = some line' ∧
      Statement.classify line = Statement.classify line' := by
  have hget : (script.lines.map Statement.classify)[i]? =
      (script'.lines.map Statement.classify)[i]? := by rw [h.statements_eq]
  have hline' : script.lines[i]? = some line := hline
  simp only [Array.getElem?_map, hline', Option.map_some] at hget
  obtain ⟨line', hline', hclassify⟩ := Option.map_eq_some_iff.mp hget.symm
  exact ⟨line', hline', hclassify.symm⟩

theorem hasStatement_eq (h : script.SameShape script') (i : Nat) :
    script.hasStatement i = script'.hasStatement i := by
  cases hline : script.line? i with
  | none =>
    have hline' : script'.line? i = none := by
      rw [line?_eq_none_iff, ← h.length_eq]
      exact line?_eq_none_iff.mp hline
    simp [hasStatement, hline, hline']
  | some line =>
    obtain ⟨line', hline', hclassify⟩ := h.exists_line hline
    simp [hasStatement, hline, hline', isSkippable_eq_of_classify hclassify]

theorem symm (h : script.SameShape script') : script'.SameShape script where
  statements_eq := h.statements_eq.symm
  indent_le_iff i j hi hj := by
    rw [← h.hasStatement_eq] at hi hj
    exact (h.indent_le_iff i j hi hj).symm

/-- A position closes the same headers in both scripts: a line by the order of indentations, and
the end of the script all of them. -/
theorem exists_closingIndent? (h : script.SameShape script') {i indent : Nat}
    (hindent : script.closingIndent? i = some indent) :
    ∃ indent', script'.closingIndent? i = some indent' ∧
      ∀ header, script.hasStatement header = true →
        (indent' ≤ script'.indentAt header ↔ indent ≤ script.indentAt header) := by
  cases hline : script.line? i with
  | none =>
    have hend := line?_eq_none_iff.mp hline
    obtain rfl : 0 = indent := by simpa [closingIndent?, hline] using hindent
    refine ⟨0, closingIndent?_of_length_le (h.length_eq ▸ hend), ?_⟩
    intro header _
    simp
  | some line =>
    obtain ⟨hskip, rfl⟩ : isSkippable line = false ∧ indentOf line = indent := by
      simpa [closingIndent?, hline] using hindent
    obtain ⟨line', hline', hclassify⟩ := h.exists_line hline
    have hskip' : isSkippable line' = false := isSkippable_eq_of_classify hclassify ▸ hskip
    refine ⟨indentOf line', closingIndent?_of_line hline' hskip', ?_⟩
    intro header hheader
    have horder := h.indent_le_iff i header (hasStatement_of_line hline hskip) hheader
    rw [indentAt_of_line hline, indentAt_of_line hline'] at horder
    exact horder.symm

theorem closes_indentAt (h : script.SameShape script') {header i : Nat}
    (hheader : script.hasStatement header = true)
    (hcloses : script.Closes (script.indentAt header) i) :
    script'.Closes (script'.indentAt header) i := by
  obtain ⟨indent, hindent, hle⟩ := hcloses
  obtain ⟨indent', hindent', horder⟩ := h.exists_closingIndent? hindent
  exact ⟨indent', hindent', (horder header hheader).mpr hle⟩

theorem blockEnd_indentAt_le (h : script.SameShape script') {header : Nat}
    (hheader : script.hasStatement header = true) (hlt : header < script.length) :
    script'.blockEnd header (script'.indentAt header) ≤
      script.blockEnd header (script.indentAt header) :=
  blockEnd_le_of_closes (lt_blockEnd _ hlt) (h.closes_indentAt hheader (closes_blockEnd _ _))

theorem blockEnd_indentAt (h : script.SameShape script') {header : Nat}
    (hheader : script.hasStatement header = true) (hlt : header < script.length) :
    script'.blockEnd header (script'.indentAt header) =
      script.blockEnd header (script.indentAt header) := by
  apply Nat.le_antisymm
  · exact h.blockEnd_indentAt_le hheader hlt
  · have hheader' : script'.hasStatement header = true := h.hasStatement_eq header ▸ hheader
    exact h.symm.blockEnd_indentAt_le hheader' (h.length_eq ▸ hlt)

end SameShape

end Script

/-! ## Ticks -/

/-- The block with the indentation that its header has in a script. -/
def Block.reindented (script : Script) (block : Block) : Block :=
  { block with indent := script.indentAt block.line }

/-- The program with the indentations that the headers of its open blocks have in a script. -/
def Program.reindented (script : Script) (program : Program) : Program :=
  { program with nesting := program.nesting.map (Block.reindented script) }

def Tick.reindented (script : Script) (t : Tick) : Tick :=
  { t with program := t.program.reindented script }

theorem Block.HeadedIn.hasStatement {script : Script} {block : Block} (h : block.HeadedIn script) :
    script.hasStatement block.line = true := by
  obtain ⟨line, hline, -, hkind⟩ := h
  exact Script.hasStatement_of_line hline (Script.isSkippable_eq_false_of_isSome hkind.isSome)

theorem Block.HeadedIn.indentAt_eq {script : Script} {block : Block} (h : block.HeadedIn script) :
    script.indentAt block.line = block.indent := by
  obtain ⟨line, hline, hindent, -⟩ := h
  rw [Script.indentAt_of_line hline, hindent]

section Tick
variable (rules : Rules) {script script' : Script} (world : World) {program : Program}

theorem close_reindented {indent indent' : Nat} {nesting : Nesting}
    (hheaded : ∀ block ∈ nesting, block.HeadedIn script)
    (horder : ∀ header, script.hasStatement header = true →
      (indent' ≤ script'.indentAt header ↔ indent ≤ script.indentAt header)) :
    Nesting.close indent' (nesting.map (Block.reindented script')) =
      (nesting.close indent).map id (Block.reindented script') := by
  have hf : ∀ kind line deep, Block.reindented script' ⟨kind, line, deep⟩ =
      ⟨kind, id line, script'.indentAt line⟩ := fun _ _ _ => rfl
  apply Nesting.close_map hf
  · intro block hmem
    have hblock := hheaded block hmem
    rw [← hblock.indentAt_eq]
    exact horder block.line hblock.hasStatement
  · intro block _
    rfl

theorem dispatch_reindented {i : Nat} {line line' : String} (nesting : Nesting)
    (hshape : script.SameShape script') (hline : script.line? i = some line)
    (hline' : script'.line? i = some line') (hskip : Script.isSkippable line = false)
    (statement : Statement) :
    Tick.dispatch rules script' (Script.indentOf line') world
        (Program.reindented script' ⟨i, nesting⟩) statement =
      (Tick.dispatch rules script (Script.indentOf line) world ⟨i, nesting⟩
        statement).reindented script' := by
  have hend := hshape.blockEnd_indentAt (Script.hasStatement_of_line hline hskip)
    (Script.lt_length_of_line? hline)
  rw [Script.indentAt_of_line hline, Script.indentAt_of_line hline'] at hend
  have henter (kind : Block.Kind) :
      Program.enter kind (Script.indentOf line') (Program.reindented script' ⟨i, nesting⟩) =
        (Program.enter kind (Script.indentOf line) ⟨i, nesting⟩).reindented script' := by
    simp only [Program.enter, Program.reindented, Nesting.push, List.map_cons, Block.reindented,
      Script.indentAt_of_line hline']
  have hskipped : Program.skip script' (Script.indentOf line')
        (Program.reindented script' ⟨i, nesting⟩) =
      (Program.skip script (Script.indentOf line) ⟨i, nesting⟩).reindented script' := by
    simp only [Program.skip, Program.reindented, hend]
  cases statement with
  | whileLoop condition =>
    simp only [Tick.dispatch, henter, hskipped]
    split <;> rfl
  | ifThen condition =>
    simp only [Tick.dispatch, henter, hskipped]
    split <;> rfl
  | forLoop count =>
    simp only [Tick.dispatch, henter]
    rfl
  | elseThen =>
    simp only [Tick.dispatch, henter]
    rfl
  | call word =>
    simp only [Tick.dispatch]
    split <;> rfl
  | blank => rfl
  | assignment => rfl
  | noOp => rfl

/-- A tick of a script of the same shape does the same. -/
theorem tick_reindented (hshape : script.SameShape script') (h : program.Enclosed script) :
    tick rules script' world (program.reindented script') =
      (tick rules script world program).reindented script' := by
  have hcursor : (program.reindented script').cursor = program.cursor := rfl
  have hclosing {indent indent' : Nat}
      (horder : ∀ header, script.hasStatement header = true →
        (indent' ≤ script'.indentAt header ↔ indent ≤ script.indentAt header)) :
      (program.reindented script').nesting.close indent' =
        (program.nesting.close indent).map id (Block.reindented script') :=
    close_reindented h.headed horder
  cases tick_case rules script world program with
  | exhausted hend hnone ht =>
    have hend' : script'.length ≤ (program.reindented script').cursor := hshape.length_eq ▸ hend
    have hnone' : (program.reindented script').nesting = [] := by
      simp [Program.reindented, hnone]
    rw [ht, tick_eq_exhausted rules world hend' hnone']
    rfl
  | passed hline hskip ht =>
    obtain ⟨line', hline', hclassify⟩ := hshape.exists_line hline
    have hskip' := Script.isSkippable_eq_of_classify hclassify ▸ hskip
    rw [← hcursor] at hline'
    rw [ht, tick_eq_passed rules world hline' hskip']
    rfl
  | loopedBack hindent hclose ht =>
    obtain ⟨indent', hindent', horder⟩ := hshape.exists_closingIndent? hindent
    have hclose' := hclosing horder
    rw [hclose, Nesting.Closing.map] at hclose'
    rw [← hcursor] at hindent'
    rw [ht, tick_eq_loopedBack rules world hindent' hclose']
    rfl
  | closed hend hopen hclose ht =>
    have hend' : script'.length ≤ (program.reindented script').cursor := hshape.length_eq ▸ hend
    have hopen' : (program.reindented script').nesting ≠ [] := by
      simpa [Program.reindented] using hopen
    -- the end of the script closes every block, however deep its header is indented
    have hclose' := hclosing fun header _ => iff_of_true (Nat.zero_le _) (Nat.zero_le _)
    rw [hclose, Nesting.Closing.map] at hclose'
    rw [ht, tick_eq_closed rules world hend' hopen' hclose']
    rfl
  | @dispatched line nesting hline hskip hclose ht =>
    obtain ⟨line', hline', hclassify⟩ := hshape.exists_line hline
    have hskip' := Script.isSkippable_eq_of_classify hclassify ▸ hskip
    obtain ⟨indent', hindent', horder⟩ :=
      hshape.exists_closingIndent? (Script.closingIndent?_of_line hline hskip)
    obtain rfl : Script.indentOf line' = indent' := by
      rw [Script.closingIndent?_of_line hline' hskip'] at hindent'
      exact Option.some.inj hindent'
    have hdispatch := dispatch_reindented rules (world.grow rules.growthStep) nesting hshape
      hline hline' hskip (Statement.classify line)
    have hclose' := hclosing horder
    rw [hclose, Nesting.Closing.map] at hclose'
    rw [← hcursor] at hline'
    rw [ht, tick_eq_dispatched rules world hline' hskip' hclose', ← hclassify]
    exact hdispatch

end Tick

/-! ## Whole runs -/

theorem stateAfter_reindented (rules : Rules) {script script' : Script} (world : World)
    (hshape : script.SameShape script') (n : Nat) :
    stateAfter rules script' world Program.start n =
      ((stateAfter rules script world Program.start n).1,
        (stateAfter rules script world Program.start n).2.reindented script') := by
  induction n with
  | zero => rfl
  | succ n ih =>
    -- `tick_reindented` needs every open block to have the indentation of its own header
    have henclosed := (reachable_stateAfter rules script world n).enclosed
    rw [stateAfter_succ, stateAfter_succ, tickAfter, ih, tick_reindented rules _ hshape henclosed]
    rfl

/-- Scripts of one shape run in lockstep: on one farm and by one set of rules every tick of the one
leaves the farm of the other's, comes to the same line and reports the same, and has the same
blocks open, of the same kinds, with headers in the same lines and with the same passes behind and
before them. -/
theorem sameShape_lockstep (rules : Rules) {script script' : Script} (world : World)
    (hshape : script.SameShape script') (n : Nat) :
    let t := tickAfter rules script world Program.start n
    let t' := tickAfter rules script' world Program.start n
    t'.world = t.world ∧ t'.program.cursor = t.program.cursor ∧ t'.log = t.log ∧
      t'.error = t.error ∧ t'.status = t.status ∧
      t'.program.nesting.map (fun block => (block.kind, block.line)) =
        t.program.nesting.map (fun block => (block.kind, block.line)) := by
  intro t t'
  have ht : t' = t.reindented script' := by
    have henclosed := (reachable_stateAfter rules script world n).enclosed
    simp only [t, t', tickAfter, stateAfter_reindented rules world hshape]
    exact tick_reindented rules _ hshape henclosed
  rw [ht]
  refine ⟨rfl, rfl, rfl, rfl, rfl, ?_⟩
  simp only [Tick.reindented, Program.reindented, List.map_map]
  rfl

/-- A loop in a loop, once indented by two columns and once unevenly: three ticks in, the same two
blocks are open in the same lines, though their headers are not indented alike. -/
theorem sameShape_lockstep_two_indents :
    let script : Script :=
      ⟨#["for i in range(2):", "  # row", "  while bot.x == 0:", "    forward()", "  left()"]⟩
    let script' : Script :=
      ⟨#["for i in range(2):", "# row", "     while bot.x == 0:", "       forward()",
        "     left()"]⟩
    script.SameShape script' ∧
      (tickAfter Rules.default script Rules.default.freshWorld Program.start 2).program =
        ⟨3, [⟨.whileLoop, 2, 2⟩, ⟨.forLoop 0 2, 0, 0⟩]⟩ ∧
      (tickAfter Rules.default script' Rules.default.freshWorld Program.start 2).program.nesting.map
        (fun block => (block.kind, block.line)) = [(.whileLoop, 2), (.forLoop 0 2, 0)] := by
  intro script script'
  have hshape : script.SameShape script' := by decide +kernel
  have hprogram : (tickAfter Rules.default script Rules.default.freshWorld Program.start 2).program =
      ⟨3, [⟨.whileLoop, 2, 2⟩, ⟨.forLoop 0 2, 0, 0⟩]⟩ := by decide +kernel
  obtain ⟨-, -, -, -, -, hnesting⟩ :=
    sameShape_lockstep Rules.default Rules.default.freshWorld hshape 2
  rw [hprogram] at hnesting
  exact ⟨hshape, hprogram, hnesting⟩

end FarmScript
