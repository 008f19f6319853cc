import FarmScript.Text.Blank
import Mathlib.Data.List.DropRight
import Mathlib.Data.List.TakeWhile

/-! # Trimmed texts

A text is trimmed to what stands between its first and its last character that is not blank
(`trim_of_ends`): blanks around it make no difference (`trim_padded`), and a part that does not end
in a blank stays when something is written after it (`trimEnd_append`).
-/

namespace FarmScript.Text
set_option autoImplicit false

theorem not_mem_of_isBlank {blanks : List Char} (h : ∀ c ∈ blanks, isBlank c = true) {c : Char}
    (hc : isBlank c = false) : c ∉ blanks := by
  intro hmem
  rw [h c hmem] at hc
  cases hc

theorem trimStart_blanks_append {blanks text : List Char} (h : ∀ c ∈ blanks, isBlank c = true) :
    trimStart (blanks ++ text) = trimStart text := List.dropWhile_append_of_pos h

theorem trimStart_cons {c : Char} (text : List Char) (hc : isBlank c = false) :
    trimStart (c :: text) = c :: text := List.dropWhile_cons_of_neg (by simp [hc])

theorem trimStart_append_of_forall {text : List Char} (rest : List Char) (hne : text ≠ [])
    (h : ∀ c ∈ text, isBlank c = false) : trimStart (text ++ rest) = text ++ rest := by
  obtain ⟨c, tail, rfl⟩ := List.exists_cons_of_ne_nil hne
  exact trimStart_cons _ (h c List.mem_cons_self)

@[simp] theorem trimEnd_nil : trimEnd [] = [] := rfl

theorem trimEnd_isPrefix (text : List Char) : trimEnd text <+: text :=
  List.rdropWhile_prefix isBlank text

theorem trim_isInfix (text : List Char) : trim text <:+: text :=
  (trimEnd_isPrefix _).isInfix.trans (List.dropWhile_suffix isBlank).isInfix

theorem isBlank_eq_false_of_mem_getLast?_trimEnd {text : List Char} {c : Char}
    (h : c ∈ (trimEnd text).getLast?) : isBlank c = false := by
  obtain ⟨hne, rfl⟩ := List.mem_getLast?_eq_getLast h
  exact Bool.eq_false_iff.mpr (List.rdropWhile_last_not isBlank text hne)

theorem trimEnd_append_blanks {text blanks : List Char} (h : ∀ c ∈ blanks, isBlank c = true) :
    trimEnd (text ++ blanks) = trimEnd text := by
  unfold trimEnd
  rw [List.reverse_append, List.dropWhile_append_of_pos]
  intro c hc
  exact h c (List.mem_reverse.mp hc)

theorem trimEnd_append {front : List Char} (text : List Char)
    (h : ∀ c ∈ front.getLast?, isBlank c = false) :
    trimEnd (front ++ text) = front ++ trimEnd text := by
  induction text using List.reverseRecOn with
  | nil =>
    rw [trimEnd_nil, List.append_nil]
    apply List.rdropWhile_eq_self_iff.mpr
    intro hne
    simpa using h _ (List.getLast?_eq_some_getLast hne)
  | append_singleton text c ih =>
    rw [← List.append_assoc]
    by_cases hc : isBlank c = true
    · have hblank : ∀ d ∈ [c], isBlank d = true := by simpa using hc
      rw [trimEnd_append_blanks hblank, trimEnd_append_blanks hblank, ih]
    · have hkeep (start : List Char) : trimEnd (start ++ [c]) = start ++ [c] :=
        List.rdropWhile_concat_neg isBlank start c hc
      rw [hkeep, hkeep, List.append_assoc]

theorem exists_trimEnd_append (text : List Char) :
    ∃ blanks, text = trimEnd text ++ blanks ∧ ∀ c ∈ blanks, isBlank c = true :=
  ⟨text.rtakeWhile isBlank, List.rdropWhile_append_rtakeWhile.symm,
    fun _ hc => List.mem_rtakeWhile_imp hc⟩

theorem trim_padded {before text after : List Char} (hbefore : ∀ c ∈ before, isBlank c = true)
    (hafter : ∀ c ∈ after, isBlank c = true) : trim (before ++ text ++ after) = trim text := by
  have hstart : trimStart (before ++ text ++ after) = trimStart (text ++ after) := by
    rw [List.append_assoc]
    exact trimStart_blanks_append hbefore
  rw [trim, hstart]
  unfold trimStart
  rw [List.dropWhile_append]
  split
  · next hempty =>
    -- nothing but blanks: all of it goes
    have hnone : after.dropWhile isBlank = [] := List.dropWhile_eq_nil_iff.mpr hafter
    rw [hnone, trim, trimStart, List.isEmpty_iff.mp hempty]
  · exact trimEnd_append_blanks hafter

theorem trim_append_trimEnd (front text : List Char) :
    trim (front ++ trimEnd text) = trim (front ++ text) := by
  obtain ⟨blanks, htext, hblanks⟩ := exists_trimEnd_append text
  have hnone : ∀ c ∈ ([] : List Char), isBlank c = true := fun c hc => absurd hc List.not_mem_nil
  have hpadded : trim ([] ++ (front ++ trimEnd text) ++ blanks) = trim (front ++ trimEnd text) :=
    trim_padded hnone hblanks
  rw [List.nil_append, List.append_assoc, ← htext] at hpadded
  exact hpadded.symm

theorem trim_of_ends {c d : Char} {front : List Char} (text : List Char) (hc : isBlank c = false)
    (hd : isBlank d = false) :
    trim (c :: front ++ d :: text) = c :: front ++ d :: trimEnd text := by
  have hlast : ∀ e ∈ (c :: front ++ [d]).getLast?, isBlank e = false := by
    rw [List.getLast?_concat]
    simpa using hd
  have hsplit (rest : List Char) : c :: front ++ d :: rest = c :: front ++ [d] ++ rest := by simp
  rw [trim, List.cons_append, trimStart_cons _ hc, ← List.cons_append, hsplit,
    trimEnd_append text hlast, hsplit (trimEnd text)]

end FarmScript.Text
