import FarmScript.Proofs.Text.Searching
import FarmScript.Proofs.Text.Trimming
import FarmScript.Tutor.Answer

/-! # Code out of an answer

Whatever the answer, its code is a part of it as it stands, without a fence in it and without blanks
at its end (`codeChars_isInfix`, `not_isInfix_fence_codeChars`, `getLast?_codeChars`). An answer
without a fence is all code, so taking code out of code only trims it.

An answer that fences its code on lines of their own gives exactly that code
(`codeChars_of_block`): the line break before a fence keeps the fence from being found earlier, as
no fence reaches over a line break. What follows the closing fence is not looked at.
-/

namespace FarmScript.Tutor
set_option autoImplicit false

theorem codeChars_of_no_fence {answer : List Char} (h : ¬ fence <:+: answer) :
    codeChars answer = Text.trim answer := by
  have hnone : Text.after? fence answer = none := by
    rw [Text.after?, Option.map_eq_none_iff, ← Option.not_isSome_iff_eq_none]
    exact fun hfound => h (Text.contains_iff.mp hfound)
  rw [codeChars, hnone]

theorem codeChars_cases (answer : List Char) :
    ¬ fence <:+: answer ∧ codeChars answer = Text.trim answer ∨
      ∃ front opened, answer = front ++ fence ++ opened ∧
        codeChars answer = Text.trimEnd (Text.before fence (blockBody opened)) := by
  cases hsplit : Text.splitOnce? fence answer with
  | none =>
    have hno : ¬ fence <:+: answer := by
      rw [← Text.contains_eq_false_iff, Text.contains, hsplit]
      rfl
    exact .inl ⟨hno, codeChars_of_no_fence hno⟩
  | some parts =>
    refine .inr ⟨parts.1, parts.2, Text.splitOnce?_eq_some hsplit, ?_⟩
    rw [codeChars, Text.after?, hsplit]
    rfl

theorem blockBody_isSuffix (opened : List Char) : blockBody opened <:+ opened := by
  unfold blockBody
  split
  · next tag rest hsplit =>
    split
    · exact List.suffix_rfl
    · exact ⟨tag ++ ['\n'], (Text.splitOnce?_eq_some hsplit).symm⟩
  · exact List.suffix_rfl

theorem codeChars_isInfix (answer : List Char) : codeChars answer <:+: answer := by
  rcases codeChars_cases answer with ⟨-, hcode⟩ | ⟨front, opened, hanswer, hcode⟩
  · rw [hcode]
    exact Text.trim_isInfix answer
  · rw [hcode, hanswer]
    have hbody : Text.trimEnd (Text.before fence (blockBody opened)) <+: blockBody opened :=
      (Text.trimEnd_isPrefix _).trans (Text.before_isPrefix fence _)
    exact hbody.isInfix.trans ((blockBody_isSuffix opened).trans (List.suffix_append _ _)).isInfix

theorem not_isInfix_fence_codeChars (answer : List Char) : ¬ fence <:+: codeChars answer := by
  rcases codeChars_cases answer with ⟨hno, hcode⟩ | ⟨front, opened, -, hcode⟩
  · rw [hcode]
    exact fun hfence => hno (hfence.trans (Text.trim_isInfix answer))
  · rw [hcode]
    intro hfence
    exact Text.not_isInfix_before (by decide) (blockBody opened)
      (hfence.trans (Text.trimEnd_isPrefix _).isInfix)

theorem getLast?_codeChars {answer : List Char} {c : Char}
    (h : c ∈ (codeChars answer).getLast?) : Text.isBlank c = false := by
  rcases codeChars_cases answer with ⟨-, hcode⟩ | ⟨front, opened, -, hcode⟩
  · rw [hcode] at h
    exact Text.isBlank_eq_false_of_mem_getLast?_trimEnd h
  · rw [hcode] at h
    exact Text.isBlank_eq_false_of_mem_getLast?_trimEnd h

/-! ## Fenced blocks -/

/-- A fence at the start of a line is not found before that line. -/
theorem splitOnce?_fence {front : List Char} (rest : List Char) (h : ¬ fence <:+: front) :
    Text.splitOnce? fence (front ++ ['\n'] ++ (fence ++ rest)) = some (front ++ ['\n'], rest) := by
  apply Text.splitOnce?_append_of_not_isInfix
  -- up to the last backtick a fence would stand before the line break or after it
  have hsplit : front ++ ['\n'] ++ fence.dropLast = front ++ '\n' :: fence.dropLast := by simp
  rw [hsplit, Text.isInfix_append_cons_iff (by decide), not_or]
  exact ⟨h, by decide⟩

theorem codeChars_of_block {prose tag code : List Char} (rest : List Char)
    (hprose : ¬ fence <:+: prose) (htag : ¬ fence <:+: tag) (hline : '\n' ∉ tag)
    (hcode : ¬ fence <:+: code) :
    codeChars (prose ++ ['\n'] ++ (fence ++ (tag ++ (['\n'] ++ (code ++ ['\n'] ++
      (fence ++ rest)))))) = Text.trimEnd code := by
  have hbody : blockBody (tag ++ (['\n'] ++ (code ++ ['\n'] ++ (fence ++ rest)))) =
      code ++ ['\n'] ++ (fence ++ rest) := by
    rw [blockBody, Text.splitOnce?_append_of_not_mem _ rfl hline]
    exact if_neg (by rw [Text.contains_eq_false_iff.mpr htag]; decide)
  have hblank : ∀ c ∈ ['\n'], Text.isBlank c = true := List.all_eq_true.mp rfl
  rw [codeChars, Text.after?, splitOnce?_fence _ hprose]
  change Text.trimEnd (Text.before fence (blockBody _)) = _
  rw [hbody, Text.before, splitOnce?_fence rest hcode]
  exact Text.trimEnd_append_blanks hblank

end FarmScript.Tutor

namespace FarmScript

/-- The code in an answer is a part of it without a fence and without blanks at its end, and code is
its own code but for the blanks before it. From prose and a block between fences that each begin a
line exactly the code comes out, but for the blanks at its end, whatever is written after the
block. -/
theorem code_between_fences :
    (∀ answer : String,
      (Tutor.extractCode answer).toList <:+: answer.toList ∧
        ¬ "```".toList <:+: (Tutor.extractCode answer).toList ∧
        (∀ c ∈ (Tutor.extractCode answer).toList.getLast?, Text.isBlank c = false) ∧
        (Tutor.extractCode (Tutor.extractCode answer)).toList =
          Text.trim (Tutor.extractCode answer).toList) ∧
      ∀ prose tag code rest : String, ¬ "```".toList <:+: prose.toList →
        ¬ "```".toList <:+: tag.toList → '\n' ∉ tag.toList → ¬ "```".toList <:+: code.toList →
          (Tutor.extractCode
            (prose ++ "\n" ++ "```" ++ tag ++ "\n" ++ code ++ "\n" ++ "```" ++ rest)).toList =
              Text.trimEnd code.toList := by
  have hfence : "```".toList = Tutor.fence := rfl
  rw [hfence]
  have hchars (answer : String) :
      (Tutor.extractCode answer).toList = Tutor.codeChars answer.toList := String.toList_ofList
  refine ⟨fun answer => ?_, fun prose tag code rest hprose htag hline hcode => ?_⟩
  · rw [hchars, hchars, hchars]
    exact ⟨Tutor.codeChars_isInfix _, Tutor.not_isInfix_fence_codeChars _,
      fun c hc => Tutor.getLast?_codeChars hc,
      Tutor.codeChars_of_no_fence (Tutor.not_isInfix_fence_codeChars _)⟩
  · rw [hchars, ← Tutor.codeChars_of_block rest.toList hprose htag hline hcode]
    congr 1
    simp [hfence]

/-- Lone backticks around the opening fence, and another block after the first. -/
theorem code_between_fences_with_backticks :
    Tutor.extractCode "Try ``this:\n````python\n    plant()\n\n    water() \n``````" =
      "    plant()\n\n    water()" := by
  have hblock := code_between_fences.2 "Try ``this:" "`python" "    plant()\n\n    water() " "```"
    (by decide) (by decide) (by decide) (by decide)
  rw [← String.toList_inj]
  refine Eq.trans ?_ (hblock.trans (by decide +kernel))
  exact congrArg (fun answer => (Tutor.extractCode answer).toList) (by decide +kernel)

end FarmScript
