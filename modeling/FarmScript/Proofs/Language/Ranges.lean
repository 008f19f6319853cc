import FarmScript.Language.Statement
import FarmScript.Proofs.Text.Numerals
import FarmScript.Proofs.Text.Searching
import Mathlib.Data.List.TakeWhile

/-! # The range of a loop

A text has a range where `range(`, digits and `)` stand in it (`RangeAt`), and its first range is
the one with the least in front of it (`FirstRange`). The search for a range gives the digits of
the first one and fails only where there is none (`firstRange?_cases`), so a `for` header is
repeated as often as its first range says, and once if the number there is too large or no range is
found (`loop_count_is_first_range`).

Other words with an opening parenthesis, ranges without digits and ranges that go on after their
digits are passed over. A range counts wherever it stands, in a comment too.
-/

namespace FarmScript
set_option autoImplicit false

namespace Statement

/-- Whether a text has a range with these digits after a first part. -/
structure RangeAt (text before digits : List Char) : Prop where
  digits_ne_nil : digits ≠ []
  isDigit : ∀ d ∈ digits, d.isDigit = true
  isPrefix : before ++ "range(".toList ++ digits ++ [')'] <+: text

/-- Whether a text has its first range after a part. -/
structure FirstRange (text before digits : List Char) : Prop
    extends RangeAt text before digits where
  length_le : ∀ before' digits', RangeAt text before' digits' → before.length ≤ before'.length

theorem not_rangeAt_nil (before digits : List Char) : ¬ RangeAt [] before digits := by
  rintro ⟨-, -, hstarts⟩
  simp at hstarts

theorem rangeAt_cons_iff {c d : Char} {text before digits : List Char} :
    RangeAt (c :: text) (d :: before) digits ↔ d = c ∧ RangeAt text before digits := by
  constructor
  · rintro ⟨hne, hdigits, hstarts⟩
    obtain ⟨hd, hstarts⟩ := List.cons_prefix_cons.mp hstarts
    exact ⟨hd, hne, hdigits, hstarts⟩
  · rintro ⟨hd, hne, hdigits, hstarts⟩
    exact ⟨hne, hdigits, List.cons_prefix_cons.mpr ⟨hd, hstarts⟩⟩

theorem rangeDigits?_eq_some_iff {text digits : List Char} :
    rangeDigits? text = some digits ↔ RangeAt text [] digits := by
  unfold rangeDigits?
  constructor
  · intro h
    obtain ⟨rest, hrest, h⟩ := Option.bind_eq_some_iff.mp h
    dsimp only at h
    split at h
    · next hrange =>
      cases h
      have hclose : [')'] <+: rest.dropWhile Text.isDigit := Text.startsWith_iff.mp hrange.2
      refine ⟨hrange.1, fun d hd => ?_, ?_⟩
      · rw [← Text.isDigit_eq]
        exact List.mem_takeWhile_imp hd
      · rw [Text.afterStart?_eq_some hrest, List.nil_append, List.append_assoc,
          List.prefix_append_right_inj]
        conv_rhs => rw [← List.takeWhile_append_dropWhile (p := Text.isDigit) (l := rest)]
        exact (List.prefix_append_right_inj _).mpr hclose
    · cases h
  · rintro ⟨hne, hdigits, rest, rfl⟩
    have hall : ∀ d ∈ digits, Text.isDigit d = true :=
      fun d hd => (Text.isDigit_eq d).trans (hdigits d hd)
    have htake : (digits ++ ([')'] ++ rest)).takeWhile Text.isDigit = digits := by
      rw [List.takeWhile_append_of_pos hall]
      exact List.append_nil digits
    have hdrop : (digits ++ ([')'] ++ rest)).dropWhile Text.isDigit = [')'] ++ rest := by
      rw [List.dropWhile_append_of_pos hall]
      rfl
    have hclose : Text.startsWith [')'] ([')'] ++ rest) = true :=
      Text.startsWith_iff.mpr (List.prefix_append _ _)
    rw [List.nil_append, List.append_assoc, List.append_assoc, Text.afterStart?_append]
    simp only [Option.bind_eq_bind, Option.bind_some, htake, hdrop]
    exact if_pos ⟨hne, hclose⟩

/-- The search finds the first range, or there is none. -/
theorem firstRange?_cases (text : List Char) :
    (∃ before digits, firstRange? text = some digits ∧ FirstRange text before digits) ∨
      firstRange? text = none ∧ ∀ before digits, ¬ RangeAt text before digits := by
  induction text with
  | nil => exact .inr ⟨rfl, not_rangeAt_nil⟩
  | cons c text ih =>
    cases hhere : rangeDigits? (c :: text) with
    | some digits =>
      refine .inl ⟨[], digits, ?_, rangeDigits?_eq_some_iff.mp hhere, fun _ _ _ => Nat.zero_le _⟩
      rw [firstRange?, hhere]
    | none =>
      have hnone (digits : List Char) : ¬ RangeAt (c :: text) [] digits := by
        rw [← rangeDigits?_eq_some_iff, hhere]
        exact Option.some_ne_none digits ∘ Eq.symm
      have hlater : firstRange? (c :: text) = firstRange? text := by rw [firstRange?, hhere]
      rw [hlater]
      rcases ih with ⟨before, digits, hfirst, hrange, hleast⟩ | ⟨hfirst, hno⟩
      · refine .inl ⟨c :: before, digits, hfirst, rangeAt_cons_iff.mpr ⟨rfl, hrange⟩, ?_⟩
        intro before' digits' hrange'
        cases before' with
        | nil => exact absurd hrange' (hnone digits')
        | cons d before' =>
          exact Nat.succ_le_succ (hleast before' digits' (rangeAt_cons_iff.mp hrange').2)
      · refine .inr ⟨hfirst, fun before digits hrange => ?_⟩
        cases before with
        | nil => exact hnone digits hrange
        | cons d before => exact hno before digits (rangeAt_cons_iff.mp hrange).2

theorem exists_firstRange {text digits : List Char} (h : firstRange? text = some digits) :
    ∃ before, FirstRange text before digits := by
  rcases firstRange?_cases text with ⟨before, digits', hfirst, hrange⟩ | ⟨hnone, -⟩
  · rw [hfirst] at h
    cases h
    exact ⟨before, hrange⟩
  · rw [hnone] at h
    cases h

theorem RangeAt.rangeDigits?_drop {text before digits : List Char}
    (h : RangeAt text before digits) :
    rangeDigits? (text.drop before.length) = some digits := by
  obtain ⟨rest, hrest⟩ := h.isPrefix
  refine rangeDigits?_eq_some_iff.mpr ⟨h.digits_ne_nil, h.isDigit, rest, ?_⟩
  rw [← hrest]
  simp

theorem FirstRange.digits_unique {text before digits before' digits' : List Char}
    (h : FirstRange text before digits) (h' : FirstRange text before' digits') :
    digits = digits' := by
  have hlength : before.length = before'.length :=
    Nat.le_antisymm (h.length_le before' digits' h'.toRangeAt)
      (h'.length_le before digits h.toRangeAt)
  have hsame := h.toRangeAt.rangeDigits?_drop
  rw [hlength, h'.toRangeAt.rangeDigits?_drop] at hsame
  exact (Option.some.inj hsame).symm

theorem FirstRange.firstRange?_eq {text before digits : List Char}
    (h : FirstRange text before digits) : firstRange? text = some digits := by
  rcases firstRange?_cases text with ⟨before', digits', hfirst, h'⟩ | ⟨-, hno⟩
  · rw [hfirst, h'.digits_unique h]
  · exact absurd h.toRangeAt (hno before digits)

/-- A range is the first one if nothing before its parenthesis spells the word. -/
theorem RangeAt.firstRange {text before digits : List Char} (h : RangeAt text before digits)
    (hbefore : ¬ "range(".toList <:+: before ++ "range".toList) :
    FirstRange text before digits := by
  refine ⟨h, fun before' digits' h' => ?_⟩
  by_contra hlt
  apply hbefore
  have hword' : before' ++ "range(".toList <+: text :=
    ((List.prefix_append _ _).trans (List.prefix_append _ _)).trans h'.isPrefix
  have hword : before ++ "range".toList <+: text :=
    List.IsPrefix.trans ⟨'(' :: digits ++ [')'], by simp⟩ h.isPrefix
  have hlength : (before' ++ "range(".toList).length ≤ (before ++ "range".toList).length := by
    have hone : "range(".length = "range".length + 1 := rfl
    simp only [List.length_append, String.length_toList]
    omega
  exact (List.suffix_append before' _).isInfix.trans
    (List.prefix_of_prefix_length_le hword' hword hlength).isInfix

/-! ## Counts -/

theorem FirstRange.toNat_rangeCount {text before digits : List Char}
    (h : FirstRange text before digits) :
    (rangeCount text).toNat =
      if Nat.ofDigitChars 10 digits 0 < UInt32.size then Nat.ofDigitChars 10 digits 0 else 1 := by
  have hvalue : Text.digitsValue digits = Nat.ofDigitChars 10 digits 0 := by
    rw [Nat.ofDigitChars_eq_foldl]
    rfl
  rw [rangeCount, h.firstRange?_eq, Option.bind_some, Text.word32?, hvalue]
  split
  · next hlt => exact UInt32.toNat_ofNat_of_lt' hlt
  · rfl

theorem classify_of_for {line : String} (h : "for ".toList <+: Text.trim line.toList) :
    classify line = forLoop (rangeCount (Text.trim line.toList)) := by
  obtain ⟨rest, hrest⟩ := h
  have hskip : isSkippable line.toList = false := by
    rw [isSkippable, ← hrest]
    rfl
  have hwhile : Text.afterStart? "while ".toList (Text.trim line.toList) = none := by
    rw [← hrest]
    rfl
  have hfor : Text.startsWith "for ".toList (Text.trim line.toList) = true :=
    Text.startsWith_iff.mpr ⟨rest, hrest⟩
  rw [classify, ofChars, hskip, ofTrimmed, hwhile]
  simp only [hfor, Bool.false_eq_true, if_false, if_true]

end Statement

/-- A line that starts with `for` is a loop, and its count is the number in its first range: digits
in the parentheses of `range`, with the least in front of them. A number that does not fit counts
as one, also where a later range has a number that does, and so does a line without a range. -/
theorem loop_count_is_first_range {line : String} (h : "for ".toList <+: Text.trim line.toList) :
    ∃ count, Statement.classify line = .forLoop count ∧
      ((∃ before digits, Statement.FirstRange (Text.trim line.toList) before digits) ∨
        (∀ before digits, ¬ Statement.RangeAt (Text.trim line.toList) before digits) ∧
          count = 1) ∧
      ∀ before digits, Statement.FirstRange (Text.trim line.toList) before digits →
        count.toNat =
          if Nat.ofDigitChars 10 digits 0 < UInt32.size then Nat.ofDigitChars 10 digits 0
          else 1 := by
  refine ⟨Statement.rangeCount (Text.trim line.toList), Statement.classify_of_for h, ?_,
    fun before digits hfirst => hfirst.toNat_rangeCount⟩
  rcases Statement.firstRange?_cases (Text.trim line.toList) with
    ⟨before, digits, -, hfirst⟩ | ⟨hnone, hno⟩
  · exact .inl ⟨before, digits, hfirst⟩
  · refine .inr ⟨hno, ?_⟩
    rw [Statement.rangeCount, hnone]
    rfl

/-- Ranges of a name and of two numbers are passed over for one in a comment; a number that is too
large is not. -/
theorem loop_count_is_first_range_in_comment :
    Statement.classify "  for i in range(n) or range(1, 4): # range(0012)" = .forLoop 12 ∧
      Statement.classify "for i in range(99999999999): # range(3)" = .forLoop 1 := by
  have hcomment : "for ".toList <+:
      Text.trim "  for i in range(n) or range(1, 4): # range(0012)".toList := by
    decide +kernel
  have hlarge : "for ".toList <+: Text.trim "for i in range(99999999999): # range(3)".toList := by
    decide +kernel
  obtain ⟨before, hfirst⟩ := Statement.exists_firstRange (by decide +kernel :
    Statement.firstRange? (Text.trim "  for i in range(n) or range(1, 4): # range(0012)".toList) =
      some "0012".toList)
  obtain ⟨before', hfirst'⟩ := Statement.exists_firstRange (by decide +kernel :
    Statement.firstRange? (Text.trim "for i in range(99999999999): # range(3)".toList) =
      some "99999999999".toList)
  obtain ⟨count, hclassify, -, hcount⟩ := loop_count_is_first_range hcomment
  obtain ⟨count', hclassify', -, hcount'⟩ := loop_count_is_first_range hlarge
  have htwelve : count = 12 := UInt32.toNat_inj.mp (hcount _ _ hfirst)
  have hone : count' = 1 := UInt32.toNat_inj.mp (hcount' _ _ hfirst')
  rw [hclassify, hclassify', htwelve, hone]
  exact ⟨rfl, rfl⟩

end FarmScript
