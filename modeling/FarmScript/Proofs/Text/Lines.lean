import FarmScript.Text.Search
import Mathlib.Data.List.Basic

/-! # The lines of a text

A text is a line without a line feed, or such a line, a line feed and another text. This is how it
is split (`splitLines_of_not_mem`, `splitLines_append`) and how a property of all texts is proved
(`lines_induction`).
-/

namespace FarmScript.Text
set_option autoImplicit false

theorem splitLines_eq_splitOn (text : List Char) : splitLines text = text.splitOn '\n' := by
  induction text with
  | nil => rfl
  | cons c text ih =>
    rw [List.splitOn_cons_eq_if_modifyHead, ← ih]
    obtain ⟨line, lines, hlines⟩ := List.exists_cons_of_ne_nil (List.splitOn_ne_nil '\n' text)
    rw [← ih] at hlines
    unfold splitLines at hlines ⊢
    rw [List.foldr_cons, hlines]
    by_cases hc : c = '\n' <;> simp [hc]

theorem splitLines_ne_nil (text : List Char) : splitLines text ≠ [] := by
  rw [splitLines_eq_splitOn]
  exact List.splitOn_ne_nil '\n' text

theorem splitLines_of_not_mem {line : List Char} (h : '\n' ∉ line) : splitLines line = [line] := by
  rw [splitLines_eq_splitOn]
  exact List.splitOn_eq_singleton h

theorem splitLines_append {line : List Char} (rest : List Char) (h : '\n' ∉ line) :
    splitLines (line ++ '\n' :: rest) = line :: splitLines rest := by
  rw [splitLines_eq_splitOn, splitLines_eq_splitOn]
  refine List.splitOnP_append_cons_of_forall_mem (fun c hc => ?_) '\n' rfl rest
  exact beq_eq_false_iff_ne.mpr fun heq => h (heq ▸ hc)

@[elab_as_elim]
theorem lines_induction {motive : List Char → Prop}
    (last : ∀ line, '\n' ∉ line → motive line)
    (more : ∀ line rest, '\n' ∉ line → motive rest → motive (line ++ '\n' :: rest))
    (text : List Char) : motive text := by
  induction hlength : text.length using Nat.strongRecOn generalizing text with
  | ind n ih =>
    by_cases hfeed : '\n' ∈ text
    · obtain ⟨line, rest, rfl, hline⟩ := List.eq_append_cons_of_mem hfeed
      refine more line rest hline (ih rest.length ?_ rest rfl)
      rw [← hlength, List.length_append, List.length_cons]
      omega
    · exact last text hfeed

theorem length_splitLines (text : List Char) :
    (splitLines text).length = text.count '\n' + 1 := by
  induction text using lines_induction with
  | last line hline =>
    rw [splitLines_of_not_mem hline, List.count_eq_zero_of_not_mem hline]
    rfl
  | more line rest hline ih =>
    rw [splitLines_append rest hline, List.length_cons, ih, List.count_append,
      List.count_eq_zero_of_not_mem hline, List.count_cons_self]
    omega

theorem not_mem_of_mem_splitLines {text line : List Char} (h : line ∈ splitLines text) :
    '\n' ∉ line := by
  induction text using lines_induction with
  | last text htext =>
    rw [splitLines_of_not_mem htext, List.mem_singleton] at h
    rwa [h]
  | more first rest hfirst ih =>
    rw [splitLines_append rest hfirst, List.mem_cons] at h
    rcases h with rfl | h
    · exact hfirst
    · exact ih h

theorem splitLines_intercalate {lines : List (List Char)} (hne : lines ≠ [])
    (h : ∀ line ∈ lines, '\n' ∉ line) : splitLines (['\n'].intercalate lines) = lines := by
  rw [splitLines_eq_splitOn]
  exact List.splitOn_intercalate '\n' h hne

/-- A text of lines that all end in a line feed has nothing after the last of them. -/
theorem splitLines_flatMap {lines : List (List Char)} (h : ∀ line ∈ lines, '\n' ∉ line) :
    splitLines (lines.flatMap (· ++ ['\n'])) = lines ++ [[]] := by
  induction lines with
  | nil => rfl
  | cons line lines ih =>
    rw [List.flatMap_cons, List.append_assoc, List.singleton_append,
      splitLines_append _ (h line List.mem_cons_self),
      ih fun later hmem => h later (List.mem_cons_of_mem line hmem), List.cons_append]

/-! ## Replacing a character -/

/-- The text with `new` for every `old`. -/
def replace (old : Char) (new text : List Char) : List Char :=
  text.flatMap fun c => if c = old then new else [c]

section Replace
variable {old : Char} {new : List Char}

theorem replace_append (front text : List Char) :
    replace old new (front ++ text) = replace old new front ++ replace old new text :=
  List.flatMap_append

theorem replace_cons_self (text : List Char) :
    replace old new (old :: text) = new ++ replace old new text := by
  simp [replace]

theorem replace_of_not_mem {text : List Char} (h : old ∉ text) : replace old new text = text := by
  induction text with
  | nil => rfl
  | cons c text ih =>
    rw [List.mem_cons, not_or] at h
    have hrest := ih h.2
    unfold replace at hrest ⊢
    rw [List.flatMap_cons, hrest, if_neg (Ne.symm h.1), List.singleton_append]

theorem mem_replace {text : List Char} {c : Char} (h : c ∈ replace old new text) :
    c ∈ new ∨ c ∈ text ∧ c ≠ old := by
  obtain ⟨d, hd, hc⟩ := List.mem_flatMap.mp h
  by_cases hold : d = old
  · rw [if_pos hold] at hc
    exact .inl hc
  · rw [if_neg hold, List.mem_singleton] at hc
    exact .inr ⟨hc ▸ hd, hc ▸ hold⟩

/-- Replacing and splitting can change places when no line feed goes or comes. -/
theorem splitLines_replace (hold : old ≠ '\n') (hnew : '\n' ∉ new) (text : List Char) :
    splitLines (replace old new text) = (splitLines text).map (replace old new) := by
  have hreplace {line : List Char} (h : '\n' ∉ line) : '\n' ∉ replace old new line := by
    intro hmem
    rcases mem_replace hmem with hfeed | ⟨hfeed, -⟩
    · exact hnew hfeed
    · exact h hfeed
  have hfeed : replace old new ['\n'] = ['\n'] :=
    replace_of_not_mem fun hmem => hold (List.mem_singleton.mp hmem)
  induction text using lines_induction with
  | last line h =>
    rw [splitLines_of_not_mem (hreplace h), splitLines_of_not_mem h, List.map_singleton]
  | more line rest h ih =>
    have hsplit : replace old new (line ++ '\n' :: rest) =
        replace old new line ++ '\n' :: replace old new rest := by
      rw [List.append_cons, replace_append, replace_append, hfeed, ← List.append_cons]
    rw [hsplit, splitLines_append _ (hreplace h), splitLines_append rest h, ih, List.map_cons]

end Replace

end FarmScript.Text
