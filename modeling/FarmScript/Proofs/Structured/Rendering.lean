import FarmScript.Proofs.Language.Wording
import FarmScript.Proofs.Structured.Node

/-! # The text of a structured program

What the rendered lines say, line by line: a header or leaf keeps its statement at any depth
(`classify_indented`, `classify_text`), its indentation is four times its depth
(`indentOf_indented`), and no rendered line is empty or a comment.
-/

namespace FarmScript
set_option autoImplicit false

namespace Text

theorem isBlank_space : isBlank ' ' = true := by decide

theorem indentation_replicate_append (n : Nat) (text : List Char) :
    indentation (List.replicate n ' ' ++ text) = n + indentation text := by
  unfold indentation
  rw [List.takeWhile_append_of_pos, List.length_append, List.length_replicate]
  intro c hc
  rw [List.eq_of_mem_replicate hc]
  exact isBlank_space

end Text

namespace Structured

/-! ## Lines at a depth -/

theorem classify_indented (depth : Nat) (text : String) :
    Statement.classify (indented depth text) = Statement.classify text := by
  have hblanks : ∀ c ∈ (String.ofList (List.replicate (4 * depth) ' ')).toList,
      Text.isBlank c = true := by
    intro c hc
    rw [String.toList_ofList] at hc
    rw [List.eq_of_mem_replicate hc]
    exact Text.isBlank_space
  have hnone : ∀ c ∈ "".toList, Text.isBlank c = true := by simp
  have hpadded := Statement.classify_padded text hblanks hnone
  rwa [String.append_empty] at hpadded

theorem indentOf_indented (depth : Nat) (text : String) :
    Script.indentOf (indented depth text) = 4 * depth + Script.indentOf text := by
  unfold Script.indentOf indented
  rw [String.toList_append, String.toList_ofList, Text.indentation_replicate_append]

/-! ## Headers -/

/-- The statement that a header is. -/
def Header.statement : Header → Statement
  | forLoop count => .forLoop count
  | whileLoop guard => .whileLoop guard.condition
  | ifThen guard => .ifThen guard.condition
  | elseThen => .elseThen

theorem exists_guard (condition : Condition) : ∃ guard : Guard, guard.condition = condition :=
  ⟨⟨condition.spelling, condition.colon_not_mem_spelling⟩, condition.parse_spelling⟩

theorem toList_forHeader (count : UInt32) : (Header.forLoop count).text.toList =
    'f' :: ("or i in range(".toList ++ Text.decimal count.toNat ++ [')']) ++ [':'] := by
  change ("for i in range(" ++ Text.numeral count.toNat ++ "):").toList = _
  simp [Text.numeral]

theorem toList_whileHeader (guard : Guard) : (Header.whileLoop guard).text.toList =
    'w' :: ("hile ".toList ++ guard.text.toList) ++ [':'] := by
  change ("while " ++ guard.text ++ ":").toList = _
  simp

theorem toList_ifHeader (guard : Guard) : (Header.ifThen guard).text.toList =
    'i' :: ("f ".toList ++ guard.text.toList) ++ [':'] := by
  change ("if " ++ guard.text ++ ":").toList = _
  simp

theorem classify_text (header : Header) : Statement.classify header.text = header.statement := by
  cases header with
  | forLoop count => exact Statement.classify_forHeader count
  | whileLoop guard => exact Statement.classify_whileHeader guard.noColon
  | ifThen guard => exact Statement.classify_ifHeader guard.noColon
  | elseThen => rfl

theorem indentOf_eq_zero_of_head {text : String} {c : Char} {rest : List Char}
    (htext : text.toList = c :: rest) (hc : Text.isBlank c = false) :
    Script.indentOf text = 0 := by
  simp [Script.indentOf, Text.indentation, htext, hc]

theorem indentOf_text (header : Header) : Script.indentOf header.text = 0 := by
  cases header with
  | forLoop count => exact indentOf_eq_zero_of_head (toList_forHeader count) (by decide)
  | whileLoop guard => exact indentOf_eq_zero_of_head (toList_whileHeader guard) (by decide)
  | ifThen guard => exact indentOf_eq_zero_of_head (toList_ifHeader guard) (by decide)
  | elseThen => rfl

theorem isEntered_statement (world : World) (header : Header) :
    header.statement.isEntered world = header.isEntered world := by
  cases header <;> rfl

/-! ## Rendered lines -/

theorem isSkippable_indented {text : String} (h : Statement.classify text ≠ .blank) (depth : Nat) :
    Script.isSkippable (indented depth text) = false := by
  rw [← classify_indented depth text, Ne, Statement.classify_eq_blank_iff] at h
  simpa using h

theorem isSkippable_leaf (leaf : Leaf) (depth : Nat) :
    Script.isSkippable (indented depth leaf.text) = false := by
  apply isSkippable_indented
  intro hblank
  have hplain := leaf.plain
  rw [hblank] at hplain
  cases hplain

theorem isSkippable_header (header : Header) (depth : Nat) :
    Script.isSkippable (indented depth header.text) = false := by
  apply isSkippable_indented
  rw [classify_text]
  cases header <;> simp [Header.statement]

theorem indentOf_leaf (leaf : Leaf) (depth : Nat) :
    Script.indentOf (indented depth leaf.text) = 4 * depth := by
  rw [indentOf_indented, leaf.flush, Nat.add_zero]

theorem indentOf_header (header : Header) (depth : Nat) :
    Script.indentOf (indented depth header.text) = 4 * depth := by
  rw [indentOf_indented, indentOf_text, Nat.add_zero]

/-- Whether a line says something and is indented by four columns for each block around it. -/
def IsDeep (depth : Nat) (line : String) : Prop :=
  Script.isSkippable line = false ∧ 4 * depth ≤ Script.indentOf line

mutual

theorem isDeep_of_mem_lines : ∀ (node : Node) (depth : Nat), ∀ line ∈ node.lines depth,
    IsDeep depth line
  | .leaf leaf, depth, line, hmem => by
      rw [Node.lines, List.mem_singleton] at hmem
      subst hmem
      exact ⟨isSkippable_leaf leaf depth, Nat.le_of_eq (indentOf_leaf leaf depth).symm⟩
  | .block header body, depth, line, hmem => by
      rw [Node.lines, List.mem_cons] at hmem
      rcases hmem with rfl | hmem
      · exact ⟨isSkippable_header header depth, Nat.le_of_eq (indentOf_header header depth).symm⟩
      · obtain ⟨hskip, hle⟩ := isDeep_of_mem_linesOf body (depth + 1) line hmem
        exact ⟨hskip, by omega⟩

theorem isDeep_of_mem_linesOf : ∀ (nodes : List Node) (depth : Nat), ∀ line ∈ linesOf nodes depth,
    IsDeep depth line
  | [], depth, line, hmem => by cases hmem
  | node :: rest, depth, line, hmem => by
      rw [linesOf, List.mem_append] at hmem
      rcases hmem with hmem | hmem
      · exact isDeep_of_mem_lines node depth line hmem
      · exact isDeep_of_mem_linesOf rest depth line hmem

end

end Structured

end FarmScript
