import FarmScript.Proofs.Farm.CheckedWork
import FarmScript.Proofs.Language.Wording

/-! # Comparisons mean equality

The condition of a comparison holds exactly where the coordinate of the bot is the integer that the
numeral spells (`Comparison.holds_condition_iff`): an integer without a signed word is no
coordinate, and a negative one neither. Headers with a comparison are read so whatever harmless
text follows their colon (`coordinate_conditions_mean_equality`).
-/

namespace FarmScript
set_option autoImplicit false

def Axis.coordinate : Axis → Bot → UInt64
  | column, bot => bot.x
  | row, bot => bot.y

theorem Axis.holds_test_iff (axis : Axis) (word : Int64) (world : World) :
    (axis.test word).holds world = true ↔ (axis.coordinate world.bot).toInt64 = word := by
  cases axis <;> exact decide_eq_true_iff

namespace Comparison
variable (comparison : Comparison)

theorem holds_condition_iff {world : World}
    (hcoordinate : (comparison.axis.coordinate world.bot).toNat < 2 ^ 63) :
    comparison.condition.holds world = true ↔
      ((comparison.axis.coordinate world.bot).toNat : Int) = comparison.value := by
  have hword := Checked.toInt_toInt64 hcoordinate
  cases hvalue : Text.signed64? comparison.value with
  | none =>
    have hno : comparison.condition.holds world = false := by
      rw [condition, hvalue]
      rfl
    rw [hno, ← hword, ← Text.signed64?_eq_some_iff, hvalue]
    simp
  | some word =>
    have hsome : comparison.condition = comparison.axis.test word := by
      rw [condition, hvalue]
      rfl
    rw [hsome, Axis.holds_test_iff, ← Int64.toInt_inj, hword,
      Text.signed64?_eq_some_iff.mp hvalue]

theorem colon_not_mem_text : ':' ∉ comparison.text.toList :=
  comparison.not_mem_text rfl rfl (by decide)

end Comparison

/-- A header with a comparison, at any indentation, asks whether the coordinate of the bot equals
the integer, however that is spelled and however large it is. What follows the colon may be any text
that does not go on with a digit and mentions nothing that is looked for before the coordinate. -/
theorem coordinate_conditions_mean_equality (comparison : Comparison) (indent : Text.Blanks) :
    ∃ condition : Condition,
      (∀ tail, comparison.axis.Harmless tail →
        Statement.classify (indent ++ ("if " ++ comparison.text ++ ":" ++ tail)) =
            .ifThen condition ∧
          Statement.classify (indent ++ ("while " ++ comparison.text ++ ":" ++ tail)) =
            .whileLoop condition) ∧
      ∀ world : World, (comparison.axis.coordinate world.bot).toNat < 2 ^ 63 →
        (condition.holds world = true ↔
          ((comparison.axis.coordinate world.bot).toNat : Int) = comparison.value) := by
  have hindented (line : String) :
      Statement.classify (indent ++ line) = Statement.classify line := by
    have hnone : ∀ c ∈ "".toList, Text.isBlank c = true := List.all_eq_true.mp rfl
    simpa using Statement.classify_padded line indent.2 hnone
  refine ⟨comparison.condition, fun tail htail => ?_,
    fun world hcoordinate => comparison.holds_condition_iff hcoordinate⟩
  rw [hindented, hindented, Statement.classify_ifHeader_append comparison.colon_not_mem_text,
    Statement.classify_whileHeader_append comparison.colon_not_mem_text,
    comparison.parse_append htail]
  exact ⟨rfl, rfl⟩

/-- A signed number with zeros in front, blanks of several kinds, and another comparison after the
colon. -/
theorem coordinate_conditions_mean_equality_spread_out :
    ∃ condition : Condition,
      Statement.classify "\t if \u3000agent.y==\u00A0+0007\u2028: # bot.y == 8:" =
          .ifThen condition ∧
        condition.holds { World.start 9 0 with bot := { Bot.spawn with y := 7 } } = true ∧
        condition.holds { World.start 9 0 with bot := { Bot.spawn with y := 8 } } = false := by
  let comparison : Comparison := {
    axis := .row
    name := "agent"
    value := 7
    numeral := "+0007"
    beforePlace := ⟨"\u3000", List.all_eq_true.mp rfl⟩
    afterPlace := ⟨"", List.all_eq_true.mp rfl⟩
    beforeNumeral := ⟨"\u00A0", List.all_eq_true.mp rfl⟩
    afterNumeral := ⟨"\u2028", List.all_eq_true.mp rfl⟩
    name_eq := .inr rfl
    isNumeral := @Text.IsNumeral.plus ['0', '0', '0', '7'] (by decide) (List.all_eq_true.mp rfl) }
  have htail : comparison.axis.Harmless " # bot.y == 8:" :=
    ⟨by simp, by decide, by decide, fun _ => by decide⟩
  obtain ⟨condition, hread, hholds⟩ :=
    coordinate_conditions_mean_equality comparison ⟨"\t ", List.all_eq_true.mp rfl⟩
  refine ⟨condition, (hread _ htail).1, ?_, ?_⟩
  · exact (hholds _ (by decide)).mpr rfl
  · rw [← Bool.not_eq_true, hholds _ (by decide)]
    decide

end FarmScript
