import FarmScript.Language.Condition
import FarmScript.Proofs.Text.Numerals
import FarmScript.Proofs.Text.Searching
import FarmScript.Proofs.Text.Trimming

/-! # Comparisons

A condition may compare a coordinate of the bot with an integer. A `Comparison` is such a text,
with any blanks on either side of the coordinate and of the numeral, and what it asks is
`Comparison.condition`: an integer that no coordinate can have is not asked for at all.

A comparison is read as its condition, and nothing that may follow it changes that
(`Comparison.parse_append`), unless what follows continues the numeral or names something that is
looked for first (`Axis.Harmless`): no pattern reaches over the end of a comparison, as none begins
in it.
-/

namespace FarmScript
set_option autoImplicit false

theorem Condition.ofChars_of_trim {text text' : List Char} (h : Text.trim text = Text.trim text') :
    ofChars text = ofChars text' := by
  unfold ofChars
  rw [h]

/-- A text with a point in it and no sensor is judged by its coordinates alone. -/
theorem Condition.ofChars_of_no_sensor {text : List Char} (hpoint : '.' ∈ Text.trim text)
    (hripe : Text.contains "check_ripe()".toList (Text.trim text) = false)
    (hsoil : Text.contains "check_soil()".toList (Text.trim text) = false) :
    ofChars text =
      if (Text.contains "bot.x".toList (Text.trim text) ||
          Text.contains "agent.x".toList (Text.trim text)) = true then
        ((comparedValue? (Text.trim text)).map atColumn).getD unknown
      else if (Text.contains "bot.y".toList (Text.trim text) ||
          Text.contains "agent.y".toList (Text.trim text)) = true then
        ((comparedValue? (Text.trim text)).map atRow).getD unknown
      else unknown := by
  have htrue : Text.trim text ≠ "True".toList := by
    intro h
    rw [h] at hpoint
    exact absurd hpoint (by decide)
  have hfalse : Text.trim text ≠ "False".toList := by
    intro h
    rw [h] at hpoint
    exact absurd hpoint (by decide)
  simp only [ofChars, htrue, hfalse, hripe, hsoil, if_false, Bool.false_eq_true]

/-- A text of blanks, which may be empty. -/
abbrev Text.Blanks := {text : String // ∀ c ∈ text.toList, Text.isBlank c = true}

/-- The two coordinates of the bot. -/
inductive Axis where
  | column
  | row

namespace Axis

/-- The letter that stands for a coordinate. -/
def letter : Axis → Char
  | column => 'x'
  | row => 'y'

def test : Axis → Int64 → Condition
  | column => .atColumn
  | row => .atRow

/-- What may follow the comparison of a coordinate: a text that does not begin with a digit and
does not mention what a condition is searched for before this coordinate. -/
structure Harmless (axis : Axis) (tail : String) : Prop where
  isDigit_head : ∀ c ∈ tail.toList.head?, c.isDigit = false
  ripe : ¬ "check_ripe()".toList <:+: tail.toList
  soil : ¬ "check_soil()".toList <:+: tail.toList
  column : axis = row → ¬ "bot.x".toList <:+: tail.toList ∧ ¬ "agent.x".toList <:+: tail.toList

theorem harmless_empty (axis : Axis) : axis.Harmless "" :=
  ⟨by simp, by decide, by decide, fun _ => by decide⟩

end Axis

/-- A comparison of a coordinate of the bot with an integer, as it is written. -/
structure Comparison where
  axis : Axis
  name : String
  value : Int
  numeral : String
  beforePlace : Text.Blanks
  afterPlace : Text.Blanks
  beforeNumeral : Text.Blanks
  afterNumeral : Text.Blanks
  /-- The bot goes by two names. -/
  name_eq : name = "bot" ∨ name = "agent"
  isNumeral : Text.IsNumeral value numeral.toList

namespace Comparison
variable (comparison : Comparison)

def text : String :=
  comparison.beforePlace ++ comparison.name ++ "." ++ String.singleton comparison.axis.letter ++
    comparison.afterPlace ++ "==" ++ comparison.beforeNumeral ++ comparison.numeral ++
    comparison.afterNumeral

/-- The question that a comparison asks. -/
def condition : Condition :=
  ((Text.signed64? comparison.value).map comparison.axis.test).getD .unknown

/-- The end of a comparison, from what follows the coordinate up to the numeral. -/
def right : List Char :=
  comparison.afterPlace.val.toList ++ ("==".toList ++
    (comparison.beforeNumeral.val.toList ++ comparison.numeral.toList))

/-- A comparison without the blanks around it. -/
def core : List Char := comparison.name.toList ++ '.' :: comparison.axis.letter :: comparison.right

theorem toList_text : comparison.text.toList =
    comparison.beforePlace.val.toList ++ comparison.core ++ comparison.afterNumeral.val.toList := by
  simp [text, core, right]

/-! ## Characters of a comparison -/

theorem name_subset : comparison.name.toList ⊆ "botagen".toList := by
  rcases comparison.name_eq with h | h <;> rw [h] <;> decide

theorem not_mem_name {c : Char} (hc : c ∉ "botagen".toList) : c ∉ comparison.name.toList :=
  fun h => hc (comparison.name_subset h)

theorem not_mem_right {c : Char} (hblank : Text.isBlank c = false)
    (hdigit : Text.isDigit c = false) (hc : c ∉ "=+-".toList) : c ∉ comparison.right := by
  have hnumeral : c ∉ comparison.numeral.toList := by
    intro hmem
    rcases comparison.isNumeral.mem hmem with rfl | rfl | h
    · exact hc (by decide)
    · exact hc (by decide)
    · rw [hdigit] at h
      cases h
  have hequals : c ∉ "==".toList :=
    fun h => hc ((by decide : "==".toList ⊆ "=+-".toList) h)
  rw [right, List.mem_append, List.mem_append, List.mem_append, not_or, not_or, not_or]
  exact ⟨Text.not_mem_of_isBlank comparison.afterPlace.2 hblank, hequals,
    Text.not_mem_of_isBlank comparison.beforeNumeral.2 hblank, hnumeral⟩

theorem not_mem_text {c : Char} (hblank : Text.isBlank c = false)
    (hdigit : Text.isDigit c = false) (hc : c ∉ "=+-botagen.xy".toList) :
    c ∉ comparison.text.toList := by
  have hname : c ∉ comparison.name.toList :=
    comparison.not_mem_name
      fun h => hc ((by decide : "botagen".toList ⊆ "=+-botagen.xy".toList) h)
  have hletter : c ≠ comparison.axis.letter := by
    cases comparison.axis <;> exact fun h => hc (by rw [h]; decide)
  have hpoint : c ≠ '.' := fun h => hc (by rw [h]; decide)
  have hright : c ∉ comparison.right :=
    comparison.not_mem_right hblank hdigit
      fun h => hc ((by decide : "=+-".toList ⊆ "=+-botagen.xy".toList) h)
  rw [toList_text, core]
  simp only [List.mem_append, List.mem_cons, not_or]
  exact ⟨⟨Text.not_mem_of_isBlank comparison.beforePlace.2 hblank, hname, hpoint, hletter, hright⟩,
    Text.not_mem_of_isBlank comparison.afterNumeral.2 hblank⟩

/-! ## What a comparison mentions -/

section Tail
variable {tail : String}

theorem not_isInfix_sensor {pattern : List Char} (hhead : pattern.head? = some 'c')
    (htail : ¬ pattern <:+: tail.toList) :
    ¬ pattern <:+: comparison.text.toList ++ tail.toList := by
  have hc : 'c' ∉ comparison.text.toList := comparison.not_mem_text rfl rfl (by decide)
  rw [Text.isInfix_append_of_head_not_mem hhead hc]
  exact htail

/-- A comparison of the row does not mention the column. -/
theorem not_isInfix_column (hrow : comparison.axis = .row) {c : Char} {pattern : List Char}
    (hhead : c ∈ pattern.head?) (hx : 'x' ∈ pattern) (hy : 'y' ∉ pattern)
    (hblank : Text.isBlank c = false) (hdigit : Text.isDigit c = false) (hc : c ∉ "=+-".toList)
    (htail : ¬ pattern <:+: tail.toList) :
    ¬ pattern <:+: comparison.text.toList ++ tail.toList := by
  have hsplit : comparison.text.toList ++ tail.toList =
      (comparison.beforePlace.val.toList ++ comparison.name.toList ++ ['.']) ++
        'y' :: (comparison.right ++ comparison.afterNumeral.val.toList ++ tail.toList) := by
    rw [toList_text, core, hrow]
    simp [Axis.letter]
  have hleft : 'x' ∉ comparison.beforePlace.val.toList ++ comparison.name.toList ++ ['.'] := by
    simp only [List.mem_append, not_or]
    exact ⟨⟨Text.not_mem_of_isBlank comparison.beforePlace.2 rfl,
      comparison.not_mem_name (by decide)⟩, by decide⟩
  have hright : c ∉ comparison.right ++ comparison.afterNumeral.val.toList := by
    rw [List.mem_append, not_or]
    exact ⟨comparison.not_mem_right hblank hdigit hc,
      Text.not_mem_of_isBlank comparison.afterNumeral.2 hblank⟩
  -- the letter of the axis, which the pattern lacks, cuts the text in two
  rw [hsplit, Text.isInfix_append_cons_iff hy, not_or,
    Text.isInfix_append_of_head_not_mem hhead hright]
  exact ⟨Text.not_isInfix_of_not_mem hx hleft, htail⟩

/-- A comparison mentions its coordinate by one of the two names of the bot. -/
theorem contains_place (rest : List Char) :
    (Text.contains ("bot.".toList ++ [comparison.axis.letter]) (comparison.core ++ rest) ||
      Text.contains ("agent.".toList ++ [comparison.axis.letter]) (comparison.core ++ rest)) =
        true := by
  have hstart : comparison.name.toList ++ ['.', comparison.axis.letter] <+:
      comparison.core ++ rest := ⟨comparison.right ++ rest, by simp [core]⟩
  have hplace := Text.contains_iff.mpr hstart.isInfix
  rw [Bool.or_eq_true_iff]
  rcases comparison.name_eq with hname | hname <;> rw [hname] at hplace
  · exact .inl hplace
  · exact .inr hplace

/-! ## Reading a comparison -/

theorem trim_text_append (tail : String) :
    Text.trim (comparison.text ++ tail).toList =
      comparison.core ++ Text.trimEnd (comparison.afterNumeral.val.toList ++ tail.toList) := by
  have hlast : ∀ c ∈ comparison.core.getLast?, Text.isBlank c = false := by
    have hsame : comparison.core.getLast? = comparison.numeral.toList.getLast? := by
      have hne := comparison.isNumeral.ne_nil
      simp [core, right, List.getLast?_append, List.getLast?_cons,
        List.getLast?_eq_some_getLast hne]
    rw [hsame]
    exact fun c hc => comparison.isNumeral.isBlank_eq_false (List.mem_of_getLast? hc)
  have hne : comparison.name.toList ≠ [] := by
    rcases comparison.name_eq with h | h <;> rw [h] <;> decide
  have hletters : "botagen".toList.all (fun c => Text.isBlank c = false) = true := by decide
  have hname : ∀ c ∈ comparison.name.toList, Text.isBlank c = false :=
    fun c hc => of_decide_eq_true (List.all_eq_true.mp hletters c (comparison.name_subset hc))
  have hstart (rest : List Char) :
      Text.trimStart (comparison.core ++ rest) = comparison.core ++ rest := by
    rw [core, List.append_assoc]
    exact Text.trimStart_append_of_forall _ hne hname
  rw [String.toList_append, toList_text, Text.trim, List.append_assoc, List.append_assoc,
    Text.trimStart_blanks_append comparison.beforePlace.2, hstart, Text.trimEnd_append _ hlast]

/-- A numeral is taken up to the first character that is not a digit. -/
theorem signedRun_append {n : Int} {numeral : List Char} (h : Text.IsNumeral n numeral)
    {rest : List Char} (hrest : ∀ c ∈ rest.head?, Text.isDigit c = false) :
    Condition.signedRun (numeral ++ rest) = numeral := by
  have htake {digits : List Char} (hdigits : ∀ d ∈ digits, d.isDigit = true) :
      (digits ++ rest).takeWhile Text.isDigit = digits := by
    rw [List.takeWhile_append_of_pos fun d hd => (Text.isDigit_eq d).trans (hdigits d hd)]
    cases rest with
    | nil => exact List.append_nil digits
    | cons c rest => simp [hrest c rfl]
  cases h with
  | bare hne hdigits =>
    obtain ⟨d, digits, rfl⟩ := List.exists_cons_of_ne_nil hne
    have hd : d.isDigit = true := hdigits d List.mem_cons_self
    unfold Condition.signedRun
    split
    · next htext =>
      obtain ⟨rfl, -⟩ := List.cons.inj htext
      exact absurd hd (by decide)
    · next htext =>
      obtain ⟨rfl, -⟩ := List.cons.inj htext
      exact absurd hd (by decide)
    · exact htake hdigits
  | plus hne hdigits => exact congrArg _ (htake hdigits)
  | minus hne hdigits => exact congrArg _ (htake hdigits)

theorem comparedValue?_core_append {rest : List Char}
    (hrest : ∀ c ∈ rest.head?, Text.isDigit c = false) :
    Condition.comparedValue? (comparison.core ++ rest) = Text.signed64? comparison.value := by
  have hleft : '=' ∉ comparison.name.toList ++ '.' :: comparison.axis.letter ::
      comparison.afterPlace.val.toList := by
    have hletter : '=' ≠ comparison.axis.letter := by cases comparison.axis <;> decide
    simp only [List.mem_append, List.mem_cons, not_or]
    exact ⟨comparison.not_mem_name (by decide), by decide, hletter,
      Text.not_mem_of_isBlank comparison.afterPlace.2 rfl⟩
  have hsplit : comparison.core ++ rest =
      (comparison.name.toList ++ '.' :: comparison.axis.letter ::
        comparison.afterPlace.val.toList) ++ ("==".toList ++
          (comparison.beforeNumeral.val.toList ++ (comparison.numeral.toList ++ rest))) := by
    simp [core, right]
  have hafter : Text.after? "==".toList (comparison.core ++ rest) =
      some (comparison.beforeNumeral.val.toList ++ (comparison.numeral.toList ++ rest)) := by
    rw [hsplit]
    exact Text.after?_append_of_not_mem _ rfl hleft
  have htrim : Text.trimStart (comparison.beforeNumeral.val.toList ++
      (comparison.numeral.toList ++ rest)) = comparison.numeral.toList ++ rest := by
    rw [Text.trimStart_blanks_append comparison.beforeNumeral.2]
    exact Text.trimStart_append_of_forall rest comparison.isNumeral.ne_nil
      fun c hc => comparison.isNumeral.isBlank_eq_false hc
  simp only [Condition.comparedValue?, hafter, Option.bind_eq_bind, Option.bind_some, htrim,
    signedRun_append comparison.isNumeral hrest, comparison.isNumeral.integer?_eq]

theorem isDigit_head?_rest (h : comparison.axis.Harmless tail) :
    ∀ c ∈ (Text.trimEnd (comparison.afterNumeral.val.toList ++ tail.toList)).head?,
      Text.isDigit c = false := by
  intro c hc
  obtain ⟨blanks, hblanks⟩ :=
    Text.trimEnd_isPrefix (comparison.afterNumeral.val.toList ++ tail.toList)
  have hhead : c ∈ (comparison.afterNumeral.val.toList ++ tail.toList).head? := by
    rw [← hblanks, List.head?_append, Option.mem_def.mp hc]
    rfl
  cases hafter : comparison.afterNumeral.val.toList with
  | nil =>
    rw [hafter] at hhead
    exact (Text.isDigit_eq c).trans (h.isDigit_head c hhead)
  | cons d rest =>
    rw [hafter, List.cons_append, List.head?_cons, Option.mem_some_iff] at hhead
    have hd : d ∈ comparison.afterNumeral.val.toList := hafter ▸ List.mem_cons_self
    by_contra hdigit
    rw [Bool.not_eq_false, ← hhead] at hdigit
    have hblank := comparison.afterNumeral.2 d hd
    rw [Text.isBlank_eq_false_of_isDigit hdigit] at hblank
    cases hblank

theorem contains_trim_eq_false {pattern : List Char}
    (h : ¬ pattern <:+: comparison.text.toList ++ tail.toList) :
    Text.contains pattern (Text.trim (comparison.text ++ tail).toList) = false := by
  rw [Text.contains_eq_false_iff]
  intro hoccurs
  rw [← String.toList_append] at h
  exact h (hoccurs.trans (Text.trim_isInfix _))

/-- A comparison is read as its condition, whatever harmless text follows it. -/
theorem parse_append (h : comparison.axis.Harmless tail) :
    Condition.parse (comparison.text ++ tail) = comparison.condition := by
  have hvalue := comparison.comparedValue?_core_append (comparison.isDigit_head?_rest h)
  have hplace := comparison.contains_place
    (Text.trimEnd (comparison.afterNumeral.val.toList ++ tail.toList))
  have hpoint : '.' ∈ Text.trim (comparison.text ++ tail).toList := by
    rw [trim_text_append, core]
    simp
  rw [← trim_text_append] at hvalue hplace
  have hripe := comparison.contains_trim_eq_false (comparison.not_isInfix_sensor rfl h.ripe)
  have hsoil := comparison.contains_trim_eq_false (comparison.not_isInfix_sensor rfl h.soil)
  rw [Condition.parse, Condition.ofChars_of_no_sensor hpoint hripe hsoil, hvalue]
  cases haxis : comparison.axis with
  | column =>
    rw [haxis] at hplace
    refine (if_pos hplace).trans ?_
    rw [condition, haxis]
    rfl
  | row =>
    obtain ⟨hbot, hagent⟩ := h.column haxis
    have hbot' := comparison.contains_trim_eq_false
      (comparison.not_isInfix_column (c := 'b') haxis rfl (by decide) (by decide) rfl rfl
        (by decide) hbot)
    have hagent' := comparison.contains_trim_eq_false
      (comparison.not_isInfix_column (c := 'a') haxis rfl (by decide) (by decide) rfl rfl
        (by decide) hagent)
    rw [haxis] at hplace
    rw [hbot', hagent', if_neg (by decide)]
    refine (if_pos hplace).trans ?_
    rw [condition, haxis]
    rfl

end Tail

end Comparison

end FarmScript
