import FarmScript.Language.Script
import Mathlib.Data.List.Basic
import Mathlib.Data.Nat.Basic

/-! # Where blocks end

Every position of a script is a line or the end of the script. A position closes blocks by an
indentation (`Script.closingIndent?`): a line by its own, the end like a line that is not indented,
and an empty line or a comment not at all. `Script.blockEnd` is the first position after a header
that closes the header's indentation (`closes_blockEnd`, `blockEnd_le_of_closes`), and blocks are
properly nested (`blockEnd_le_blockEnd`).
-/

namespace FarmScript
set_option autoImplicit false

namespace Statement

theorem ofTrimmed_ne_blank (text : List Char) : ofTrimmed text ≠ .blank := by
  unfold ofTrimmed
  repeat' split
  all_goals simp

/-- The lines that say nothing are the empty ones and the comments. -/
theorem classify_eq_blank_iff (line : String) :
    classify line = .blank ↔ Script.isSkippable line = true := by
  unfold classify ofChars Script.isSkippable
  split
  · simp_all
  · simp_all [ofTrimmed_ne_blank]

end Statement

namespace Script

/-- The indentation by which a position closes blocks, if it closes any. -/
def closingIndent? (script : Script) (i : Nat) : Option Nat :=
  match script.line? i with
  | none => some 0
  | some line => if isSkippable line then none else some (indentOf line)

/-- Whether a position closes a block whose header is indented by `indent`. -/
def Closes (script : Script) (indent i : Nat) : Prop :=
  ∃ k, script.closingIndent? i = some k ∧ k ≤ indent

variable {script : Script}

theorem line?_eq_none_iff {i : Nat} : script.line? i = none ↔ script.length ≤ i := by
  simp [line?, length]

theorem lt_length_of_line? {i : Nat} {line : String} (h : script.line? i = some line) :
    i < script.length := by
  by_contra hi
  rw [line?_eq_none_iff.mpr (by omega)] at h
  cases h

theorem closingIndent?_of_length_le {i : Nat} (h : script.length ≤ i) :
    script.closingIndent? i = some 0 := by
  simp [closingIndent?, line?_eq_none_iff.mpr h]

theorem closingIndent?_of_line {i : Nat} {line : String} (h : script.line? i = some line)
    (hs : isSkippable line = false) : script.closingIndent? i = some (indentOf line) := by
  simp [closingIndent?, h, hs]

theorem Closes.mono {indent indent' i : Nat} (h : script.Closes indent i)
    (hle : indent ≤ indent') : script.Closes indent' i := by
  obtain ⟨k, hk, hki⟩ := h
  exact ⟨k, hk, by omega⟩

/-- A line inside the script closes exactly the blocks that it ends. -/
theorem closes_iff_endsBlock {indent i : Nat} {line : String} (h : script.line? i = some line) :
    script.Closes indent i ↔ endsBlock indent line = true := by
  cases hs : isSkippable line <;> simp [Closes, closingIndent?, endsBlock, h, hs]

theorem not_closes_of_skippable {indent i : Nat} {line : String} (h : script.line? i = some line)
    (hs : isSkippable line = true) : ¬ script.Closes indent i := by
  simp [Closes, closingIndent?, h, hs]

/-! ## The end of a block -/

theorem line?_header_add {header j : Nat} {line : String} :
    (script.lines.toList.drop (header + 1))[j]? = some line ↔
      script.line? (header + 1 + j) = some line := by
  simp [line?]

theorem blockEnd_le_length (header indent : Nat) :
    script.blockEnd header indent ≤ script.length := by
  unfold blockEnd
  split
  · next i hi =>
    have hlt := (List.findIdx?_eq_some_iff_getElem.mp hi).1
    simp only [List.length_drop, Array.length_toList] at hlt
    unfold length
    omega
  · exact le_rfl

theorem lt_blockEnd {header : Nat} (indent : Nat) (h : header < script.length) :
    header < script.blockEnd header indent := by
  unfold blockEnd
  split <;> omega

/-- The end of a block closes it. -/
theorem closes_blockEnd (header indent : Nat) :
    script.Closes indent (script.blockEnd header indent) := by
  unfold blockEnd
  split
  · next i hi =>
    obtain ⟨hlt, hends, -⟩ := List.findIdx?_eq_some_iff_getElem.mp hi
    have hline := line?_header_add.mp (List.getElem?_eq_getElem hlt)
    exact (closes_iff_endsBlock hline).mpr hends
  · exact ⟨0, closingIndent?_of_length_le le_rfl, Nat.zero_le _⟩

/-- No position between a header and the end of its block closes the block. -/
theorem blockEnd_le_of_closes {header indent i : Nat} (hi : header < i)
    (h : script.Closes indent i) : script.blockEnd header indent ≤ i := by
  obtain ⟨j, rfl⟩ : ∃ j, i = header + 1 + j := ⟨i - (header + 1), by omega⟩
  by_cases hlen : script.length ≤ header + 1 + j
  · exact Nat.le_trans (blockEnd_le_length header indent) hlen
  · obtain ⟨line, hline⟩ := Option.ne_none_iff_exists'.mp (mt line?_eq_none_iff.mp hlen)
    have hends := (closes_iff_endsBlock hline).mp h
    obtain ⟨hj, hget⟩ := List.getElem?_eq_some_iff.mp (line?_header_add.mpr hline)
    unfold blockEnd
    split
    · next k hk =>
      have hbefore := (List.findIdx?_eq_some_iff_getElem.mp hk).2.2
      by_contra hlt
      have hnot := hbefore j (by omega)
      rw [hget] at hnot
      exact hnot hends
    · next hnone =>
      have hnot := List.findIdx?_eq_none_iff.mp hnone line (hget ▸ List.getElem_mem hj)
      rw [hends] at hnot
      cases hnot

/-- A block that stands inside another, indented deeper, ends no later than it. -/
theorem blockEnd_le_blockEnd {header inner indent indent' : Nat}
    (hinner : inner < script.blockEnd header indent) (hle : indent ≤ indent') :
    script.blockEnd inner indent' ≤ script.blockEnd header indent :=
  blockEnd_le_of_closes hinner ((closes_blockEnd header indent).mono hle)

end Script

end FarmScript
