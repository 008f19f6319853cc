import FarmScript.Text.Blank
import FarmScript.Text.Numeral
import Mathlib.Data.List.Basic

/-! # Numerals

An integer is spelled by a sign, or none, and any nonempty run of digits (`IsNumeral`): zeros may
stand in front, and zero may have a sign. Every spelling is read as its integer
(`IsNumeral.integer?_eq`), and what is written is one of the spellings (`isNumeral_signedDecimal`).
Words of fixed width come back from their values (`word32?_toNat`, `signed64?_toInt`).
-/

namespace FarmScript.Text
set_option autoImplicit false

/-! ## Digits -/

theorem isDigit_eq (c : Char) : isDigit c = c.isDigit := by
  simp [isDigit, Char.isDigit, Char.le_def]

theorem isBlank_eq_false_of_isDigit {c : Char} (h : isDigit c = true) : isBlank c = false := by
  simp only [isDigit, Char.le_def, Bool.and_eq_true, decide_eq_true_eq, UInt32.le_iff_toNat_le] at h
  obtain ⟨hlow, hhigh⟩ := h
  change 48 ≤ c.toNat at hlow
  change c.toNat ≤ 57 at hhigh
  simp only [isBlank, blankRanges, List.any_cons, List.any_nil, Bool.or_eq_false_iff,
    Bool.and_eq_false_iff, decide_eq_false_iff_not, and_true]
  omega

theorem isDigit_of_mem_decimal {n : Nat} {c : Char} (h : c ∈ decimal n) : isDigit c = true := by
  rw [isDigit_eq]
  exact Nat.isDigit_of_mem_toDigits (by decide) (by decide) h

theorem digitsValue_decimal (n : Nat) : digitsValue (decimal n) = n := by
  have h := Nat.ofDigitChars_ten_toDigits (n := n)
  rw [Nat.ofDigitChars_eq_foldl] at h
  exact h

theorem numeral_injective : Function.Injective numeral := by
  intro n m h
  have hdigits : decimal n = decimal m := String.ofList_injective h
  rw [← digitsValue_decimal n, hdigits, digitsValue_decimal]

theorem decimal_ne_cons {n : Nat} {c : Char} {text : List Char} (hc : isDigit c = false) :
    decimal n ≠ c :: text := by
  intro h
  have hdigit : isDigit c = true := isDigit_of_mem_decimal (h ▸ List.mem_cons_self)
  rw [hc] at hdigit
  cases hdigit

theorem unsigned?_of_digits {digits : List Char} (hne : digits ≠ [])
    (h : ∀ d ∈ digits, d.isDigit = true) :
    unsigned? digits = some (Nat.ofDigitChars 10 digits 0) := by
  have hall : digits.all isDigit = true :=
    List.all_eq_true.mpr fun d hd => (isDigit_eq d).trans (h d hd)
  rw [unsigned?, if_pos ⟨hne, hall⟩, Nat.ofDigitChars_eq_foldl]
  rfl

/-! ## Words of fixed width -/

theorem word32?_toNat (word : UInt32) : word32? word.toNat = some word := by
  unfold word32?
  rw [if_pos word.toNat_lt, UInt32.ofNat_toNat]

theorem word64?_toNat (word : UInt64) : word64? word.toNat = some word := by
  unfold word64?
  rw [if_pos word.toNat_lt, UInt64.ofNat_toNat]

theorem signed64?_toInt (word : Int64) : signed64? word.toInt = some word := by
  unfold signed64?
  rw [if_pos ⟨word.minValue_le_toInt, word.toInt_le⟩, Int64.ofInt_toInt]

/-- A signed word is found for exactly the integers that have one. -/
theorem signed64?_eq_some_iff {n : Int} {word : Int64} :
    signed64? n = some word ↔ word.toInt = n := by
  constructor
  · intro h
    unfold signed64? at h
    split at h
    · next hrange =>
      obtain ⟨hlow, hhigh⟩ := hrange
      cases h
      exact Int64.toInt_ofInt_of_le hlow (Int.lt_add_one_of_le hhigh)
    · cases h
  · rintro rfl
    exact signed64?_toInt word

/-! ## Spellings of integers -/

/-- The spellings of an integer. -/
inductive IsNumeral : Int → List Char → Prop
  | bare {digits : List Char} (hne : digits ≠ []) (h : ∀ d ∈ digits, d.isDigit = true) :
      IsNumeral (Nat.ofDigitChars 10 digits 0 : Nat) digits
  | plus {digits : List Char} (hne : digits ≠ []) (h : ∀ d ∈ digits, d.isDigit = true) :
      IsNumeral (Nat.ofDigitChars 10 digits 0 : Nat) ('+' :: digits)
  | minus {digits : List Char} (hne : digits ≠ []) (h : ∀ d ∈ digits, d.isDigit = true) :
      IsNumeral (-(Nat.ofDigitChars 10 digits 0 : Nat)) ('-' :: digits)

namespace IsNumeral
variable {n : Int} {text : List Char}

theorem ne_nil (h : IsNumeral n text) : text ≠ [] := by
  cases h with
  | bare hne => exact hne
  | plus => exact List.cons_ne_nil _ _
  | minus => exact List.cons_ne_nil _ _

theorem mem (h : IsNumeral n text) {c : Char} (hc : c ∈ text) :
    c = '+' ∨ c = '-' ∨ isDigit c = true := by
  cases h with
  | bare hne hdigits => exact .inr (.inr ((isDigit_eq c).trans (hdigits c hc)))
  | plus hne hdigits =>
    rcases List.mem_cons.mp hc with rfl | hc
    · exact .inl rfl
    · exact .inr (.inr ((isDigit_eq c).trans (hdigits c hc)))
  | minus hne hdigits =>
    rcases List.mem_cons.mp hc with rfl | hc
    · exact .inr (.inl rfl)
    · exact .inr (.inr ((isDigit_eq c).trans (hdigits c hc)))

theorem isBlank_eq_false (h : IsNumeral n text) {c : Char} (hc : c ∈ text) : isBlank c = false := by
  rcases h.mem hc with rfl | rfl | hdigit
  · decide
  · decide
  · exact isBlank_eq_false_of_isDigit hdigit

theorem integer?_eq (h : IsNumeral n text) : integer? text = some n := by
  cases h with
  | bare hne hdigits =>
    have hdigit (c : Char) (rest : List Char) (hc : c.isDigit = false) : text ≠ c :: rest := by
      rintro rfl
      have htrue := hdigits c List.mem_cons_self
      rw [hc] at htrue
      cases htrue
    have hnatural : natural? text = unsigned? text := by
      unfold natural?
      split
      · next rest => exact absurd rfl (hdigit '+' rest rfl)
      · rfl
    unfold integer?
    split
    · next rest => exact absurd rfl (hdigit '-' rest rfl)
    · rw [hnatural, unsigned?_of_digits hne hdigits]
      rfl
  | plus hne hdigits => simp [integer?, natural?, unsigned?_of_digits hne hdigits]
  | minus hne hdigits => simp [integer?, unsigned?_of_digits hne hdigits]

end IsNumeral

theorem isNumeral_signedDecimal (n : Int) : IsNumeral n (signedDecimal n) := by
  have hne : decimal n.natAbs ≠ [] := Nat.toDigits_ne_nil
  have hdigits : ∀ d ∈ decimal n.natAbs, d.isDigit = true :=
    fun d hd => (isDigit_eq d).symm.trans (isDigit_of_mem_decimal hd)
  have hvalue : Nat.ofDigitChars 10 (decimal n.natAbs) 0 = n.natAbs :=
    Nat.ofDigitChars_ten_toDigits
  unfold signedDecimal
  split
  · next hneg =>
    have h := IsNumeral.minus hne hdigits
    rw [hvalue] at h
    convert h using 1
    omega
  · next hnonneg =>
    have h := IsNumeral.bare hne hdigits
    rw [hvalue] at h
    convert h using 1
    omega

theorem isDigit_or_sign_of_mem_signedDecimal {n : Int} {c : Char} (h : c ∈ signedDecimal n) :
    c = '-' ∨ isDigit c = true := by
  unfold signedDecimal at h
  split at h
  · rcases List.mem_cons.mp h with rfl | h
    · exact .inl rfl
    · exact .inr (isDigit_of_mem_decimal h)
  · exact .inr (isDigit_of_mem_decimal h)

theorem not_mem_signedDecimal {n : Int} {c : Char} (hsign : c ≠ '-') (hdigit : isDigit c = false) :
    c ∉ signedDecimal n := by
  intro hmem
  rcases isDigit_or_sign_of_mem_signedDecimal hmem with rfl | h
  · exact hsign rfl
  · rw [hdigit] at h
    cases h

theorem signedDecimal_ne_nil (n : Int) : signedDecimal n ≠ [] := (isNumeral_signedDecimal n).ne_nil

end FarmScript.Text
