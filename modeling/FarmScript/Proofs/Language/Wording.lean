import FarmScript.Proofs.Language.Ranges
import FarmScript.Proofs.Language.Spelling

/-! # Written statements

Headers and calls have a written form (`Statement.Written`), and reading a line undoes writing it,
whatever blanks stand around the text.

* Blanks: they make no difference at either end of a line (`classify_padded`).
* Headers: `classify_forHeader`, `classify_whileHeader` and `classify_ifHeader` read them; a
  condition may be any text without a colon, as the first colon of a header is dropped, and what
  follows that colon is a part of the condition too (`classify_whileHeader_append`).
* Calls: no header can be mistaken for the call of a word, as every header has a character that no
  word has (`classify_call`).
-/

namespace FarmScript
set_option autoImplicit false

namespace Statement

theorem ofChars_of_trim {line line' : List Char} (h : Text.trim line = Text.trim line') :
    ofChars line = ofChars line' := by
  unfold ofChars isSkippable
  rw [h]

theorem classify_padded (text : String) {before after : String}
    (hbefore : ∀ c ∈ before.toList, Text.isBlank c = true)
    (hafter : ∀ c ∈ after.toList, Text.isBlank c = true) :
    classify (before ++ text ++ after) = classify text := by
  apply ofChars_of_trim
  rw [String.toList_append, String.toList_append]
  exact Text.trim_padded hbefore hafter

theorem ofChars_of_ends {c d : Char} {front : List Char} (text : List Char)
    (hc : Text.isBlank c = false) (hsharp : c ≠ '#') (hd : Text.isBlank d = false) :
    ofChars (c :: front ++ d :: text) = ofTrimmed (c :: front ++ d :: Text.trimEnd text) := by
  unfold ofChars isSkippable
  rw [Text.trim_of_ends text hc hd]
  simp [hsharp]

/-! ## Headers -/

theorem classify_forHeader (count : UInt32) :
    classify ("for i in range(" ++ Text.numeral count.toNat ++ "):") = forLoop count := by
  have hline : ("for i in range(" ++ Text.numeral count.toNat ++ "):").toList =
      'f' :: ("or i in range(".toList ++ Text.decimal count.toNat ++ [')']) ++ [':'] := by
    simp [Text.numeral]
  have htrim : Text.trim ("for i in range(" ++ Text.numeral count.toNat ++ "):").toList =
      "for i in range(".toList ++ Text.decimal count.toNat ++ "):".toList := by
    rw [hline, Text.trim_of_ends [] (by decide) (by decide)]
    simp
  have hfor : "for ".toList <+:
      "for i in range(".toList ++ Text.decimal count.toNat ++ "):".toList := by
    simp
  have hrange : RangeAt ("for i in range(".toList ++ Text.decimal count.toNat ++ "):".toList)
      "for i in ".toList (Text.decimal count.toNat) :=
    ⟨Nat.toDigits_ne_nil,
      fun d hd => (Text.isDigit_eq d).symm.trans (Text.isDigit_of_mem_decimal hd), by simp⟩
  have hvalue : Nat.ofDigitChars 10 (Text.decimal count.toNat) 0 = count.toNat :=
    Nat.ofDigitChars_ten_toDigits
  have hcount := (hrange.firstRange (by decide)).toNat_rangeCount
  rw [hvalue, if_pos count.toNat_lt] at hcount
  rw [← htrim] at hfor hcount
  rw [classify_of_for hfor, UInt32.toNat_inj.mp hcount]

section Guard
variable {text : String} (h : ':' ∉ text.toList)
include h

theorem headerCondition_append (tail : String) :
    headerCondition (text.toList ++ ':' :: Text.trimEnd tail.toList) =
      Condition.parse (text ++ tail) := by
  unfold headerCondition Condition.parse
  rw [List.erase_append_right _ h, List.erase_cons_head, String.toList_append]
  exact Condition.ofChars_of_trim (Text.trim_append_trimEnd _ _)

theorem classify_whileHeader_append (tail : String) :
    classify ("while " ++ text ++ ":" ++ tail) = whileLoop (Condition.parse (text ++ tail)) := by
  have hline : ("while " ++ text ++ ":" ++ tail).toList =
      'w' :: ("hile ".toList ++ text.toList) ++ ':' :: tail.toList := by
    simp
  have hwhile : Text.afterStart? "while ".toList
      ('w' :: ("hile ".toList ++ text.toList) ++ ':' :: Text.trimEnd tail.toList) =
        some (text.toList ++ ':' :: Text.trimEnd tail.toList) := by
    simp [Text.afterStart?]
  rw [classify, hline, ofChars_of_ends _ (by decide) (by decide) (by decide), ofTrimmed, hwhile]
  simp only [headerCondition_append h]

theorem classify_ifHeader_append (tail : String) :
    classify ("if " ++ text ++ ":" ++ tail) = ifThen (Condition.parse (text ++ tail)) := by
  have hline : ("if " ++ text ++ ":" ++ tail).toList =
      'i' :: ("f ".toList ++ text.toList) ++ ':' :: tail.toList := by
    simp
  have hwhile : Text.afterStart? "while ".toList
      ('i' :: ("f ".toList ++ text.toList) ++ ':' :: Text.trimEnd tail.toList) = none := by
    simp [Text.afterStart?]
  have hfor : Text.startsWith "for ".toList
      ('i' :: ("f ".toList ++ text.toList) ++ ':' :: Text.trimEnd tail.toList) = false := by
    simp [Text.startsWith, Text.afterStart?]
  have hif : Text.afterStart? "if ".toList
      ('i' :: ("f ".toList ++ text.toList) ++ ':' :: Text.trimEnd tail.toList) =
        some (text.toList ++ ':' :: Text.trimEnd tail.toList) := by
    simp [Text.afterStart?]
  rw [classify, hline, ofChars_of_ends _ (by decide) (by decide) (by decide), ofTrimmed, hwhile]
  simp only [hfor, hif, Bool.false_eq_true, if_false, headerCondition_append h]

theorem classify_whileHeader :
    classify ("while " ++ text ++ ":") = whileLoop (Condition.parse text) := by
  simpa using classify_whileHeader_append h ""

theorem classify_ifHeader :
    classify ("if " ++ text ++ ":") = ifThen (Condition.parse text) := by
  simpa using classify_ifHeader_append h ""

end Guard

/-! ## Calls -/

theorem toNat_of_isWordChar {c : Char} (h : isWordChar c = true) :
    65 ≤ c.toNat ∧ c.toNat ≤ 122 := by
  rcases Bool.or_eq_true_iff.mp h with hletter | hunderscore
  · rcases Bool.or_eq_true_iff.mp hletter with hupper | hlower
    · obtain ⟨hlow, hhigh⟩ := of_decide_eq_true hupper
      rw [ge_iff_le, UInt32.le_iff_toNat_le] at hlow
      rw [UInt32.le_iff_toNat_le] at hhigh
      change 65 ≤ c.toNat at hlow
      change c.toNat ≤ 90 at hhigh
      omega
    · obtain ⟨hlow, hhigh⟩ := Bool.and_eq_true_iff.mp hlower
      rw [decide_eq_true_eq, ge_iff_le, UInt32.le_iff_toNat_le] at hlow
      rw [decide_eq_true_eq, UInt32.le_iff_toNat_le] at hhigh
      change 97 ≤ c.toNat at hlow
      change c.toNat ≤ 122 at hhigh
      omega
  · obtain rfl := of_decide_eq_true hunderscore
    decide

theorem isBlank_eq_false_of_isWordChar {c : Char} (h : isWordChar c = true) :
    Text.isBlank c = false := by
  have hcode := toNat_of_isWordChar h
  simp only [Text.isBlank, Text.blankRanges, List.any_cons, List.any_nil, Bool.or_eq_false_iff,
    Bool.and_eq_false_iff, decide_eq_false_iff_not, and_true]
  omega

theorem not_mem_of_isWordChar {word : List Char} (hword : ∀ c ∈ word, isWordChar c = true)
    {d : Char} (hd : isWordChar d = false) : d ∉ word := by
  intro hmem
  rw [hword d hmem] at hd
  cases hd

theorem callWord?_append {word : List Char} (hne : word ≠ [])
    (hword : ∀ c ∈ word, isWordChar c = true) : callWord? (word ++ "()".toList) = some word := by
  have htake : (word ++ "()".toList).takeWhile isWordChar = word := by
    rw [List.takeWhile_append_of_pos hword]
    exact List.append_nil word
  have hdrop : (word ++ "()".toList).dropWhile isWordChar = "()".toList := by
    rw [List.dropWhile_append_of_pos hword]
    rfl
  unfold callWord?
  simp only [htake, hdrop]
  exact if_pos ⟨hne, rfl⟩

/-- Every header has a blank or a colon in it, and the call of a word has neither. -/
theorem ofTrimmed_call {word : List Char} (hne : word ≠ [])
    (hword : ∀ c ∈ word, isWordChar c = true) :
    ofTrimmed (word ++ "()".toList) = call (String.ofList word) := by
  have hlack {d : Char} (hd : isWordChar d = false) (hparens : d ∉ "()".toList) :
      d ∉ word ++ "()".toList := by
    rw [List.mem_append, not_or]
    exact ⟨not_mem_of_isWordChar hword hd, hparens⟩
  have hspace : ' ' ∉ word ++ "()".toList := hlack (by decide) (by decide)
  have hcolon : ':' ∉ word ++ "()".toList := hlack (by decide) (by decide)
  have hwhile : Text.afterStart? "while ".toList (word ++ "()".toList) = none :=
    Text.afterStart?_eq_none_of_not_mem (by decide) hspace
  have hfor : Text.startsWith "for ".toList (word ++ "()".toList) = false := by
    rw [Text.startsWith, Text.afterStart?_eq_none_of_not_mem (by decide) hspace]
    rfl
  have hif : Text.afterStart? "if ".toList (word ++ "()".toList) = none :=
    Text.afterStart?_eq_none_of_not_mem (by decide) hspace
  have helse : Text.startsWith "else:".toList (word ++ "()".toList) = false := by
    rw [Text.startsWith, Text.afterStart?_eq_none_of_not_mem (by decide) hcolon]
    rfl
  rw [ofTrimmed, hwhile]
  simp only [hfor, hif, helse, callWord?_append hne hword, Bool.false_eq_true, if_false]

theorem classify_call {word : String} (hne : word ≠ "")
    (hword : ∀ c ∈ word.toList, isWordChar c = true) : classify (word ++ "()") = call word := by
  have hchars : word.toList ≠ [] := by simpa using hne
  have hread := ofTrimmed_call hchars hword
  obtain ⟨c, rest, hcons⟩ := List.exists_cons_of_ne_nil hchars
  have hc : isWordChar c = true := hword c (hcons ▸ List.mem_cons_self)
  have hsharp : c ≠ '#' := by
    rintro rfl
    exact absurd hc (by decide)
  have hends : word.toList ++ "()".toList = c :: (rest ++ ['(']) ++ [')'] := by
    rw [hcons]
    simp
  rw [String.ofList_toList] at hread
  rw [classify, String.toList_append, ← hread, hends]
  exact ofChars_of_ends [] (isBlank_eq_false_of_isWordChar hc) hsharp (by decide)

/-! ## Written statements -/

/-- How a statement is written: a header with its keyword and its colon, a call with its
parentheses. -/
inductive Written : Statement → String → Prop
  | whileLoop {condition : Condition} {text : String} (h : condition.Written text) :
      Written (whileLoop condition) ("while " ++ text ++ ":")
  | ifThen {condition : Condition} {text : String} (h : condition.Written text) :
      Written (ifThen condition) ("if " ++ text ++ ":")
  | forLoop (count : UInt32) :
      Written (forLoop count) ("for i in range(" ++ Text.numeral count.toNat ++ "):")
  | elseThen : Written elseThen "else:"
  | call {word : String} (hne : word ≠ "")
      (hword : ∀ c ∈ word.toList, c.isAlpha = true ∨ c = '_') : Written (call word) (word ++ "()")

theorem classify_of_written {statement : Statement} {text : String} (h : statement.Written text) :
    classify text = statement := by
  cases h with
  | whileLoop h => rw [classify_whileHeader h.colon_not_mem, h.parse_eq]
  | ifThen h => rw [classify_ifHeader h.colon_not_mem, h.parse_eq]
  | forLoop count => exact classify_forHeader count
  | elseThen => rfl
  | call hne hword =>
    exact classify_call hne fun c hc => by simpa [isWordChar] using hword c hc

end Statement

/-- Reading undoes writing: a statement as it is written, with any blanks before and after it, reads
as that statement. A coordinate may be compared with every number of its type and a loop may have
every count; a word may be called even if a header starts with it. -/
theorem reading_undoes_writing {statement : Statement} {text before after : String}
    (h : statement.Written text) (hbefore : ∀ c ∈ before.toList, Text.isBlank c = true)
    (hafter : ∀ c ∈ after.toList, Text.isBlank c = true) :
    Statement.classify (before ++ text ++ after) = statement := by
  rw [Statement.classify_padded text hbefore hafter]
  exact Statement.classify_of_written h

/-- The least number of a row, the greatest count, and a call of `while`, between blanks of several
kinds. -/
theorem reading_undoes_writing_at_the_limits :
    Statement.classify "\u3000\twhile agent.y == -9223372036854775808:\u2028" =
        .whileLoop (.atRow Int64.minValue) ∧
      Statement.classify "  for i in range(4294967295):\r\n" = .forLoop 4294967295 ∧
      Statement.classify "\u00A0while() " = .call "while" := by
  have hwhile : "\u3000\twhile agent.y == -9223372036854775808:\u2028" = "\u3000\t" ++ ("while " ++
      ("agent.y" ++ " == " ++ Text.signedNumeral Int64.minValue.toInt) ++ ":") ++ "\u2028" := by
    decide +kernel
  have hfor : "  for i in range(4294967295):\r\n" = "  " ++ ("for i in range(" ++
      Text.numeral (4294967295 : UInt32).toNat ++ "):") ++ "\r\n" := by
    decide +kernel
  have hcall : "\u00A0while() " = "\u00A0" ++ ("while" ++ "()") ++ " " := by decide +kernel
  have hletters : "while".toList.all Char.isAlpha = true := by decide
  have hword : Statement.Written (.call "while") ("while" ++ "()") :=
    .call (by decide) fun c hc => .inl (List.all_eq_true.mp hletters c hc)
  have hblank {blanks : String} (h : blanks.toList.all Text.isBlank = true) :
      ∀ c ∈ blanks.toList, Text.isBlank c = true := List.all_eq_true.mp h
  rw [hwhile, hfor, hcall]
  refine ⟨?_, ?_, ?_⟩
  · exact reading_undoes_writing (.whileLoop (.row (.inr rfl) _)) (hblank rfl) (hblank rfl)
  · exact reading_undoes_writing (.forLoop _) (hblank rfl) (hblank rfl)
  · exact reading_undoes_writing hword (hblank rfl) (hblank rfl)

end FarmScript
