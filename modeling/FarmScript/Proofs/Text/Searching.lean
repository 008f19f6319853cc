import FarmScript.Text.Search
import Mathlib.Data.List.Infix

/-! # What searching finds

A search is read off the text: `afterStart?` and `startsWith` ask for a prefix, `contains` for an
infix (`contains_iff`), and `splitOnce?` cuts the text at the first place where the pattern stands.
The first place is found in two ways:

* nothing in front of a pattern is an occurrence that was passed over (`not_isInfix_of_splitOnce?`);
* a pattern is the first one when the text up to its last character has none in it
  (`splitOnce?_append_of_not_isInfix`).

Where a pattern cannot stand is told by single characters: it does not reach over a character that
it lacks (`isInfix_append_cons_iff`), nor begin in a text without its first character
(`isInfix_append_of_head_not_mem`).
-/

namespace FarmScript.Text
set_option autoImplicit false

/-! ## Where a pattern can stand -/

section Place
variable {pattern front text : List Char} {c : Char}

theorem isPrefix_append_cons_iff (hc : c ∉ pattern) :
    pattern <+: front ++ c :: text ↔ pattern <+: front := by
  constructor
  · intro h
    induction front generalizing pattern with
    | nil =>
      rcases List.prefix_cons_iff.mp h with rfl | ⟨rest, rfl, -⟩
      · exact List.nil_prefix
      · exact absurd List.mem_cons_self hc
    | cons x front ih =>
      rcases List.prefix_cons_iff.mp h with rfl | ⟨rest, rfl, hrest⟩
      · exact List.nil_prefix
      · rw [List.mem_cons, not_or] at hc
        exact List.cons_prefix_cons.mpr ⟨rfl, ih hc.2 hrest⟩
  · exact List.prefix_append_of_prefix

theorem isInfix_append_cons_iff (hc : c ∉ pattern) :
    pattern <:+: front ++ c :: text ↔ pattern <:+: front ∨ pattern <:+: text := by
  induction front with
  | nil =>
    have hstart : pattern <+: [] ++ c :: text ↔ pattern <+: [] := isPrefix_append_cons_iff hc
    rw [List.nil_append] at hstart ⊢
    rw [List.infix_cons_iff, hstart, List.prefix_nil, List.infix_nil]
  | cons x front ih =>
    have hstart : pattern <+: x :: front ++ c :: text ↔ pattern <+: x :: front :=
      isPrefix_append_cons_iff hc
    rw [List.cons_append] at hstart ⊢
    rw [List.infix_cons_iff, hstart, ih, ← or_assoc, ← List.infix_cons_iff]

theorem isInfix_append_of_head_not_mem (hhead : c ∈ pattern.head?) (hc : c ∉ front) :
    pattern <:+: front ++ text ↔ pattern <:+: text := by
  obtain ⟨pattern, rfl⟩ := List.head?_eq_some_iff.mp hhead
  induction front with
  | nil => rfl
  | cons x front ih =>
    rw [List.mem_cons, not_or] at hc
    rw [List.cons_append, List.infix_cons_iff, List.cons_prefix_cons, ih hc.2]
    simp [hc.1]

theorem not_isInfix_of_not_mem (hc : c ∈ pattern) (htext : c ∉ text) : ¬ pattern <:+: text :=
  fun h => htext (h.mem hc)

end Place

/-! ## The start of a text -/

theorem afterStart?_append (pattern rest : List Char) :
    afterStart? pattern (pattern ++ rest) = some rest := by
  induction pattern with
  | nil => rfl
  | cons p pattern ih =>
    rw [List.cons_append, afterStart?, if_pos rfl]
    exact ih

theorem afterStart?_eq_some {pattern text rest : List Char}
    (h : afterStart? pattern text = some rest) : text = pattern ++ rest := by
  induction pattern generalizing text with
  | nil =>
    cases h
    rfl
  | cons p pattern ih =>
    cases text with
    | nil => cases h
    | cons c text =>
      rw [afterStart?] at h
      split at h
      · next hpc => rw [hpc, ih h, List.cons_append]
      · cases h

theorem startsWith_iff {pattern text : List Char} :
    startsWith pattern text = true ↔ pattern <+: text := by
  rw [startsWith, Option.isSome_iff_exists]
  constructor
  · rintro ⟨rest, hrest⟩
    exact ⟨rest, (afterStart?_eq_some hrest).symm⟩
  · rintro ⟨rest, rfl⟩
    exact ⟨rest, afterStart?_append pattern rest⟩

theorem afterStart?_eq_none_iff {pattern text : List Char} :
    afterStart? pattern text = none ↔ ¬ pattern <+: text := by
  rw [← startsWith_iff, startsWith, Bool.not_eq_true, Option.isSome_eq_false_iff,
    Option.isNone_iff_eq_none]

theorem afterStart?_eq_none_of_not_mem {pattern text : List Char} {c : Char} (hc : c ∈ pattern)
    (htext : c ∉ text) : afterStart? pattern text = none :=
  afterStart?_eq_none_iff.mpr fun h => htext (h.mem hc)

/-! ## The first occurrence -/

theorem splitOnce?_append (pattern rest : List Char) :
    splitOnce? pattern (pattern ++ rest) = some ([], rest) := by
  have hstart := afterStart?_append pattern rest
  cases htext : pattern ++ rest with
  | nil =>
    rw [htext] at hstart
    rw [splitOnce?, hstart]
    rfl
  | cons c text =>
    rw [htext] at hstart
    rw [splitOnce?, hstart]

theorem splitOnce?_cons_of_not_isPrefix {pattern text : List Char} {c : Char}
    (h : ¬ pattern <+: c :: text) :
    splitOnce? pattern (c :: text) =
      (splitOnce? pattern text).map fun (before, after) => (c :: before, after) := by
  rw [splitOnce?, afterStart?_eq_none_iff.mpr h]

theorem splitOnce?_eq_some {pattern text before after : List Char}
    (h : splitOnce? pattern text = some (before, after)) : text = before ++ pattern ++ after := by
  induction text generalizing before with
  | nil =>
    simp only [splitOnce?, Option.map_eq_some_iff, Prod.mk.injEq] at h
    obtain ⟨rest, hrest, rfl, rfl⟩ := h
    simpa using afterStart?_eq_some hrest
  | cons c text ih =>
    rw [splitOnce?] at h
    split at h
    · next rest hrest =>
      cases h
      simpa using afterStart?_eq_some hrest
    · obtain ⟨⟨before', after'⟩, hsplit, heq⟩ := Option.map_eq_some_iff.mp h
      cases heq
      rw [ih hsplit]
      rfl

theorem contains_iff {pattern text : List Char} :
    contains pattern text = true ↔ pattern <:+: text := by
  constructor
  · intro h
    obtain ⟨⟨before, after⟩, hsplit⟩ := Option.isSome_iff_exists.mp h
    exact ⟨before, after, (splitOnce?_eq_some hsplit).symm⟩
  · intro h
    rw [contains]
    induction text with
    | nil =>
      obtain rfl := List.infix_nil.mp h
      rfl
    | cons c text ih =>
      by_cases hstart : pattern <+: c :: text
      · obtain ⟨rest, hrest⟩ := hstart
        rw [← hrest, splitOnce?_append]
        rfl
      · have hlater : pattern <:+: text := (List.infix_cons_iff.mp h).resolve_left hstart
        rw [splitOnce?_cons_of_not_isPrefix hstart, Option.isSome_map]
        exact ih hlater

theorem contains_eq_false_iff {pattern text : List Char} :
    contains pattern text = false ↔ ¬ pattern <:+: text := by
  rw [← contains_iff, Bool.not_eq_true]

/-- Up to the first occurrence there is no other. -/
theorem not_isInfix_of_splitOnce? {pattern text before after : List Char} (hne : pattern ≠ [])
    (h : splitOnce? pattern text = some (before, after)) : ¬ pattern <:+: before := by
  induction text generalizing before with
  | nil =>
    have hnil : before = [] := by
      have hlength := congrArg List.length (splitOnce?_eq_some h)
      simp only [List.length_nil, List.length_append] at hlength
      exact List.eq_nil_of_length_eq_zero (by omega)
    rw [hnil, List.infix_nil]
    exact hne
  | cons c text ih =>
    by_cases hstart : pattern <+: c :: text
    · obtain ⟨rest, hrest⟩ := hstart
      rw [← hrest, splitOnce?_append, Option.some_inj, Prod.mk.injEq] at h
      rw [← h.1, List.infix_nil]
      exact hne
    · rw [splitOnce?_cons_of_not_isPrefix hstart] at h
      obtain ⟨⟨before', after'⟩, hsplit, heq⟩ := Option.map_eq_some_iff.mp h
      obtain ⟨rfl, rfl⟩ := Prod.mk.inj heq
      rw [List.infix_cons_iff, not_or]
      refine ⟨fun hstarts => hstart ?_, ih hsplit⟩
      rw [splitOnce?_eq_some hsplit, List.append_assoc, ← List.cons_append]
      exact List.prefix_append_of_prefix hstarts

/-- An occurrence is the first one if none ends before its last character. -/
theorem splitOnce?_append_of_not_isInfix {pattern front : List Char} (rest : List Char)
    (h : ¬ pattern <:+: front ++ pattern.dropLast) :
    splitOnce? pattern (front ++ (pattern ++ rest)) = some (front, rest) := by
  induction front with
  | nil => exact splitOnce?_append pattern rest
  | cons c front ih =>
    have hstart : ¬ pattern <+: c :: (front ++ (pattern ++ rest)) := by
      intro hstarts
      have hfront : c :: front ++ pattern.dropLast <+: c :: (front ++ (pattern ++ rest)) := by
        rw [List.cons_append, List.cons_prefix_cons, List.prefix_append_right_inj]
        exact ⟨rfl, List.prefix_append_of_prefix (List.dropLast_prefix pattern)⟩
      have hlength : pattern.length ≤ (c :: front ++ pattern.dropLast).length := by
        simp only [List.length_append, List.length_cons, List.length_dropLast]
        omega
      -- an occurrence here would end where only a part of `pattern` has been read
      exact h (List.prefix_of_prefix_length_le hstarts hfront hlength).isInfix
    have hlater : ¬ pattern <:+: front ++ pattern.dropLast :=
      fun hoccurs => h (hoccurs.trans (List.suffix_cons c _).isInfix)
    rw [List.cons_append, splitOnce?_cons_of_not_isPrefix hstart, ih hlater]
    rfl

theorem splitOnce?_append_of_not_mem {c : Char} {pattern front : List Char} (rest : List Char)
    (hhead : c ∈ pattern.head?) (hc : c ∉ front) :
    splitOnce? pattern (front ++ (pattern ++ rest)) = some (front, rest) := by
  apply splitOnce?_append_of_not_isInfix
  rw [isInfix_append_of_head_not_mem hhead hc]
  intro hoccurs
  have hlength := hoccurs.length_le
  have hpos : 0 < pattern.length := List.length_pos_of_mem (List.mem_of_mem_head? hhead)
  rw [List.length_dropLast] at hlength
  omega

theorem after?_append_of_not_mem {c : Char} {pattern front : List Char} (rest : List Char)
    (hhead : c ∈ pattern.head?) (hc : c ∉ front) :
    after? pattern (front ++ (pattern ++ rest)) = some rest := by
  rw [after?, splitOnce?_append_of_not_mem rest hhead hc]
  rfl

theorem before_isPrefix (pattern text : List Char) : before pattern text <+: text := by
  unfold before
  cases h : splitOnce? pattern text with
  | none => exact List.prefix_rfl
  | some parts =>
    refine ⟨pattern ++ parts.2, ?_⟩
    rw [← List.append_assoc]
    exact (splitOnce?_eq_some h).symm

theorem not_isInfix_before {pattern : List Char} (hne : pattern ≠ []) (text : List Char) :
    ¬ pattern <:+: before pattern text := by
  unfold before
  cases h : splitOnce? pattern text with
  | none =>
    change ¬ pattern <:+: text
    rw [← contains_eq_false_iff, contains, h]
    rfl
  | some parts => exact not_isInfix_of_splitOnce? hne h

end FarmScript.Text
