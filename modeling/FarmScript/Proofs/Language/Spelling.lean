import FarmScript.Proofs.Language.Comparison

/-! # Spelling conditions

Every condition but the unknown one has a text that it is written as (`Condition.Written`), a
written condition reads as itself (`Written.parse_eq`), and no such text has a colon in it. The
comparisons among these texts are spaced in one way (`spaced`).
-/

namespace FarmScript
set_option autoImplicit false

namespace Condition

/-! ## Written conditions -/

/-- How a condition is written; the bot goes by two names. -/
inductive Written : Condition → String → Prop
  | yes : Written (literal true) "True"
  | no : Written (literal false) "False"
  | ripe : Written ripe "check_ripe()"
  | emptySoil : Written emptySoil "check_soil()"
  | column {place : String} (hplace : place = "bot.x" ∨ place = "agent.x") (x : Int64) :
      Written (atColumn x) (place ++ " == " ++ Text.signedNumeral x.toInt)
  | row {place : String} (hplace : place = "bot.y" ∨ place = "agent.y") (y : Int64) :
      Written (atRow y) (place ++ " == " ++ Text.signedNumeral y.toInt)

/-- A comparison with one blank before and after the two equals signs. -/
def spaced (axis : Axis) {name : String} (hname : name = "bot" ∨ name = "agent") (value : Int64) :
    Comparison where
  axis := axis
  name := name
  value := value.toInt
  numeral := Text.signedNumeral value.toInt
  beforePlace := ⟨"", List.all_eq_true.mp rfl⟩
  afterPlace := ⟨" ", List.all_eq_true.mp rfl⟩
  beforeNumeral := ⟨" ", List.all_eq_true.mp rfl⟩
  afterNumeral := ⟨"", List.all_eq_true.mp rfl⟩
  name_eq := hname
  isNumeral := by
    rw [Text.signedNumeral, String.toList_ofList]
    exact Text.isNumeral_signedDecimal value.toInt

section Spaced
variable (axis : Axis) {name place : String} (hname : name = "bot" ∨ name = "agent")
  (value : Int64)

theorem text_spaced : (spaced axis hname value).text =
    name ++ "." ++ String.singleton axis.letter ++ " == " ++ Text.signedNumeral value.toInt := by
  rw [← String.toList_inj]
  simp [Comparison.text, spaced]

variable (hplace : name ++ "." ++ String.singleton axis.letter = place)
include hname hplace

theorem parse_comparison :
    parse (place ++ " == " ++ Text.signedNumeral value.toInt) = axis.test value := by
  have hparse := (spaced axis hname value).parse_append axis.harmless_empty
  rw [String.append_empty, text_spaced, hplace] at hparse
  rw [hparse, Comparison.condition, spaced, Text.signed64?_toInt]
  rfl

theorem colon_not_mem_comparison :
    ':' ∉ (place ++ " == " ++ Text.signedNumeral value.toInt).toList := by
  rw [← hplace, ← text_spaced axis hname]
  exact (spaced axis hname value).not_mem_text rfl rfl (by decide)

end Spaced

theorem Written.parse_eq {condition : Condition} {text : String} (h : condition.Written text) :
    parse text = condition := by
  cases h with
  | yes => rfl
  | no => rfl
  | ripe => rfl
  | emptySoil => rfl
  | column hplace x =>
    rcases hplace with rfl | rfl
    · exact parse_comparison .column (.inl rfl) x rfl
    · exact parse_comparison .column (.inr rfl) x rfl
  | row hplace y =>
    rcases hplace with rfl | rfl
    · exact parse_comparison .row (.inl rfl) y rfl
    · exact parse_comparison .row (.inr rfl) y rfl

theorem Written.colon_not_mem {condition : Condition} {text : String}
    (h : condition.Written text) : ':' ∉ text.toList := by
  cases h with
  | yes => decide
  | no => decide
  | ripe => decide
  | emptySoil => decide
  | column hplace x =>
    rcases hplace with rfl | rfl
    · exact colon_not_mem_comparison .column (.inl rfl) x rfl
    · exact colon_not_mem_comparison .column (.inr rfl) x rfl
  | row hplace y =>
    rcases hplace with rfl | rfl
    · exact colon_not_mem_comparison .row (.inl rfl) y rfl
    · exact colon_not_mem_comparison .row (.inr rfl) y rfl

/-! ## A text for every condition -/

/-- The comparison of a coordinate of the bot with a number. -/
def comparison (axis : Char) (value : Int64) : List Char :=
  ['b', 'o', 't', '.'] ++ axis :: [' ', '=', '=', ' '] ++ Text.signedDecimal value.toInt

/-- A text of a condition. -/
def spelling : Condition → String
  | literal true => "True"
  | literal false => "False"
  | ripe => "check_ripe()"
  | emptySoil => "check_soil()"
  | atColumn x => String.ofList (comparison 'x' x)
  | atRow y => String.ofList (comparison 'y' y)
  | unknown => ""

theorem written_spelling {condition : Condition} (h : condition ≠ unknown) :
    condition.Written condition.spelling := by
  have hcomparison (axis : Char) (value : Int64) : String.ofList (comparison axis value) =
      String.ofList ['b', 'o', 't', '.', axis] ++ " == " ++ Text.signedNumeral value.toInt := by
    rw [← String.toList_inj]
    simp [comparison, Text.signedNumeral]
  cases condition with
  | literal value => cases value <;> constructor
  | ripe => exact .ripe
  | emptySoil => exact .emptySoil
  | atColumn x =>
    rw [spelling, hcomparison]
    exact .column (.inl rfl) x
  | atRow y =>
    rw [spelling, hcomparison]
    exact .row (.inl rfl) y
  | unknown => exact absurd rfl h

theorem parse_spelling (condition : Condition) : parse condition.spelling = condition := by
  by_cases h : condition = unknown
  · subst h
    rfl
  · exact (written_spelling h).parse_eq

theorem colon_not_mem_spelling (condition : Condition) : ':' ∉ condition.spelling.toList := by
  by_cases h : condition = unknown
  · subst h
    decide
  · exact (written_spelling h).colon_not_mem

end Condition

end FarmScript
