import FarmScript.Proofs.Machine.Enclosure

/-! # Scripts without empty lines and comments

`Script.condensed` leaves the empty lines and comments of a script out, and `Script.keptBefore`
says where a position of the script is then found: behind as many lines as stand before it and say
something. Positions that say something keep the indentation by which they close blocks
(`closingIndent?_condensed`), so blocks keep their ends (`keptBefore_blockEnd`), and closing open
blocks commutes with renumbering their headers (`close_condensed`).
-/

namespace FarmScript
set_option autoImplicit false

namespace Script

/-- The script without its empty lines and comments. -/
def condensed (script : Script) : Script :=
  ⟨script.lines.filter fun line => !isSkippable line⟩

/-- The number of lines before a position that are neither empty nor comments. -/
def keptBefore (script : Script) (i : Nat) : Nat :=
  (script.lines.toList.take i).countP fun line => !isSkippable line

variable {script : Script}

theorem length_condensed :
    script.condensed.length = script.lines.toList.countP fun line => !isSkippable line := by
  rw [condensed, length, ← Array.length_toList, Array.toList_filter, List.countP_eq_length_filter]

/-! ## Positions -/

theorem closingIndent?_eq_none_iff {i : Nat} :
    script.closingIndent? i = none ↔
      ∃ line, script.line? i = some line ∧ isSkippable line = true := by
  cases hline : script.line? i with
  | none => simp [closingIndent?, hline]
  | some line => simp [closingIndent?, hline]

theorem isSkippable_eq_false_of_kept {i : Nat} {line : String} (h : script.line? i = some line)
    (hkept : script.closingIndent? i ≠ none) : isSkippable line = false := by
  by_contra hskip
  exact hkept (closingIndent?_eq_none_iff.mpr ⟨line, h, by simpa using hskip⟩)

theorem getElem?_toList_of_line? {i : Nat} {line : String} (h : script.line? i = some line) :
    script.lines.toList[i]? = some line := by
  rw [Array.getElem?_toList]
  exact h

theorem keptBefore_succ {i : Nat} {line : String} (h : script.line? i = some line) :
    script.keptBefore (i + 1) =
      script.keptBefore i + if isSkippable line = true then 0 else 1 := by
  rw [keptBefore, keptBefore, List.take_add_one, List.countP_append, getElem?_toList_of_line? h]
  cases hskip : isSkippable line <;> simp [hskip]

theorem keptBefore_succ_of_skippable {i : Nat} (h : script.closingIndent? i = none) :
    script.keptBefore (i + 1) = script.keptBefore i := by
  obtain ⟨line, hline, hskip⟩ := closingIndent?_eq_none_iff.mp h
  rw [keptBefore_succ hline, if_pos hskip, Nat.add_zero]

theorem keptBefore_succ_of_kept {i : Nat} {line : String} (h : script.line? i = some line)
    (hskip : isSkippable line = false) : script.keptBefore (i + 1) = script.keptBefore i + 1 := by
  rw [keptBefore_succ h, if_neg (by simp [hskip])]

theorem keptBefore_of_length_le {i : Nat} (h : script.length ≤ i) :
    script.keptBefore i = script.condensed.length := by
  rw [length_condensed, keptBefore, List.take_of_length_le]
  exact h

theorem length_condensed_le {i : Nat} (h : script.length ≤ i) :
    script.condensed.length ≤ script.keptBefore i :=
  Nat.le_of_eq (keptBefore_of_length_le h).symm

theorem keptBefore_mono {i j : Nat} (h : i ≤ j) : script.keptBefore i ≤ script.keptBefore j := by
  unfold keptBefore
  exact (List.take_sublist_take_left h).countP_le

theorem keptBefore_lt {i j : Nat} {line : String} (hline : script.line? i = some line)
    (hskip : isSkippable line = false) (h : i < j) : script.keptBefore i < script.keptBefore j := by
  have hsucc := keptBefore_succ_of_kept hline hskip
  have hmono : script.keptBefore (i + 1) ≤ script.keptBefore j := keptBefore_mono h
  omega

theorem line?_condensed {i : Nat} {line : String} (h : script.line? i = some line)
    (hskip : isSkippable line = false) :
    script.condensed.line? (script.keptBefore i) = some line := by
  have hsplit : script.lines.toList =
      script.lines.toList.take i ++ line :: script.lines.toList.drop (i + 1) := by
    obtain ⟨hlt, hline⟩ := List.getElem?_eq_some_iff.mp (getElem?_toList_of_line? h)
    rw [← hline, List.getElem_cons_drop, List.take_append_drop]
  have hfilter : script.condensed.lines.toList =
      (script.lines.toList.take i).filter (fun line => !isSkippable line) ++
        line :: (script.lines.toList.drop (i + 1)).filter (fun line => !isSkippable line) := by
    rw [condensed, Array.toList_filter]
    nth_rewrite 1 [hsplit]
    rw [List.filter_append, List.filter_cons_of_pos (by simp [hskip])]
  rw [line?, ← Array.getElem?_toList, hfilter, keptBefore, List.countP_eq_length_filter,
    List.getElem?_append_right (Nat.le_refl _), Nat.sub_self]
  rfl

theorem closingIndent?_condensed {i indent : Nat} (h : script.closingIndent? i = some indent) :
    script.condensed.closingIndent? (script.keptBefore i) = some indent := by
  cases hline : script.line? i with
  | none =>
    rw [keptBefore_of_length_le (line?_eq_none_iff.mp hline),
      closingIndent?_of_length_le (Nat.le_refl _)]
    simpa [closingIndent?, hline] using h
  | some line =>
    obtain ⟨hskip, rfl⟩ : isSkippable line = false ∧ indentOf line = indent := by
      simpa [closingIndent?, hline] using h
    exact closingIndent?_of_line (line?_condensed hline hskip) hskip

/-- Behind every position there is one that is neither an empty line nor a comment, and nothing but
empty lines and comments stands between them. -/
theorem exists_kept_from (script : Script) (i : Nat) :
    ∃ j, i ≤ j ∧ script.keptBefore j = script.keptBefore i ∧ script.closingIndent? j ≠ none := by
  by_cases hkept : script.closingIndent? i = none
  · obtain ⟨line, hline, -⟩ := closingIndent?_eq_none_iff.mp hkept
    have hlt := lt_length_of_line? hline
    obtain ⟨j, hj, hsame, hkept'⟩ := exists_kept_from script (i + 1)
    exact ⟨j, by omega, hsame.trans (keptBefore_succ_of_skippable hkept), hkept'⟩
  · exact ⟨i, Nat.le_refl i, rfl, hkept⟩
termination_by script.length - i

theorem exists_keptBefore_eq {k : Nat} (hk : k ≤ script.condensed.length) :
    ∃ i, script.keptBefore i = k ∧ script.closingIndent? i ≠ none := by
  induction k with
  | zero =>
    obtain ⟨j, -, hsame, hkept⟩ := exists_kept_from script 0
    exact ⟨j, hsame, hkept⟩
  | succ k ih =>
    obtain ⟨i, rfl, hkept⟩ := ih (by omega)
    cases hline : script.line? i with
    | none =>
      rw [keptBefore_of_length_le (line?_eq_none_iff.mp hline)] at hk
      omega
    | some line =>
      have hskip := isSkippable_eq_false_of_kept hline hkept
      obtain ⟨j, -, hsame, hkept'⟩ := exists_kept_from script (i + 1)
      exact ⟨j, hsame.trans (keptBefore_succ_of_kept hline hskip), hkept'⟩

/-- The end of a block is found where it was. -/
theorem keptBefore_blockEnd {header indent : Nat} {line : String}
    (hline : script.line? header = some line) (hskip : isSkippable line = false) :
    script.keptBefore (script.blockEnd header indent) =
      script.condensed.blockEnd (script.keptBefore header) indent := by
  apply Nat.le_antisymm
  · -- the line at which the block ends in the condensed script closes the block here, too
    have hend : script.condensed.Closes indent
        (script.condensed.blockEnd (script.keptBefore header) indent) := closes_blockEnd _ _
    have hend_le : script.condensed.blockEnd (script.keptBefore header) indent ≤
        script.condensed.length := blockEnd_le_length _ _
    obtain ⟨i, hi, hkept⟩ := exists_keptBefore_eq hend_le
    have hlt : header < i := by
      by_contra hle
      have hmono : script.keptBefore i ≤ script.keptBefore header :=
        keptBefore_mono (Nat.not_lt.mp hle)
      have hheader := lt_blockEnd indent (lt_length_of_line? (line?_condensed hline hskip))
      omega
    have hcloses : script.Closes indent i := by
      obtain ⟨k, hk⟩ := Option.ne_none_iff_exists'.mp hkept
      obtain ⟨k', hk', hle⟩ := hend
      rw [← hi, closingIndent?_condensed hk] at hk'
      cases hk'
      exact ⟨k, hk, hle⟩
    rw [← hi]
    exact keptBefore_mono (blockEnd_le_of_closes hlt hcloses)
  · obtain ⟨k, hk, hle⟩ : script.Closes indent (script.blockEnd header indent) :=
      closes_blockEnd header indent
    have hlt : header < script.blockEnd header indent :=
      lt_blockEnd indent (lt_length_of_line? hline)
    exact blockEnd_le_of_closes (keptBefore_lt hline hskip hlt)
      ⟨k, closingIndent?_condensed hk, hle⟩

end Script

/-! ## Programs -/

/-- The block with its header where the condensed script has it. -/
def Block.condensed (script : Script) (block : Block) : Block :=
  { block with line := script.keptBefore block.line }

/-- The program at the same place of the condensed script. -/
def Program.condensed (script : Script) (program : Program) : Program where
  cursor := script.keptBefore program.cursor
  nesting := program.nesting.map (Block.condensed script)

/-- What closing blocks comes to, at the same places of the condensed script. -/
def Nesting.Closing.condensed (script : Script) (closing : Closing) : Closing :=
  closing.map script.keptBefore (Block.condensed script)

theorem Block.HeadedIn.keptBefore_succ {script : Script} {block : Block}
    (h : block.HeadedIn script) :
    script.keptBefore (block.line + 1) = script.keptBefore block.line + 1 := by
  obtain ⟨line, hline, -, hkind⟩ := h
  exact Script.keptBefore_succ_of_kept hline (Script.isSkippable_eq_false_of_isSome hkind.isSome)

theorem close_condensed {script : Script} (indent : Nat) {nesting : Nesting}
    (h : ∀ block ∈ nesting, block.HeadedIn script) :
    Nesting.close indent (nesting.map (Block.condensed script)) =
      (nesting.close indent).condensed script :=
  Nesting.close_map (fun _ _ _ => rfl) (fun _ _ => Iff.rfl)
    fun block hmem => (h block hmem).keptBefore_succ

end FarmScript
