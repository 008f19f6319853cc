import FarmScript.Play.Session
import FarmScript.Proofs.Text.Lines
import Mathlib.Logic.Relation

/-! # Normalised sources

The lines of a script are the lines of its source without the carriage return that may end them and
with spaces for tabs (`Script.toList_parse`). Some sources therefore have the same script
(`Script.Respelled`): one with spaces for its tabs, one with carriage returns before its line feeds,
and the lines of the script itself put together again.

A tab at the end of a line and a carriage return there do not interfere: only a carriage return in
last place is dropped, and spaces take the place of a tab without moving it away from the end
(`normalizeLine_replace`). Of several carriage returns one is dropped, so a source with carriage
returns of its own is not respelled by more of them.
-/

namespace FarmScript
set_option autoImplicit false

namespace Script

/-! ## Lines -/

/-- A line without one carriage return at its end. -/
def withoutReturn (line : List Char) : List Char :=
  if line.getLast? = some '\r' then line.dropLast else line

theorem normalizeLine_eq (line : List Char) :
    normalizeLine line = Text.replace '\t' tab (withoutReturn line) := rfl

theorem withoutReturn_append (line : List Char) : withoutReturn (line ++ ['\r']) = line := by
  rw [withoutReturn, if_pos List.getLast?_concat, List.dropLast_concat]

theorem withoutReturn_of_getLast? {line : List Char} (h : line.getLast? ≠ some '\r') :
    withoutReturn line = line := if_neg h

theorem tab_not_mem_replace (line : List Char) : '\t' ∉ Text.replace '\t' tab line := by
  intro h
  rcases Text.mem_replace h with hspace | ⟨-, htab⟩
  · exact absurd hspace (by decide)
  · exact htab rfl

theorem getLast?_replace {line : List Char} (h : line.getLast? ≠ some '\r') :
    (Text.replace '\t' tab line).getLast? ≠ some '\r' := by
  rcases List.eq_nil_or_concat line with rfl | ⟨init, c, rfl⟩
  · exact h
  · rw [List.concat_eq_append] at h ⊢
    by_cases htab : c = '\t'
    · have hspace : (Text.replace '\t' tab ['\t']).getLast? = some ' ' := rfl
      rw [htab, Text.replace_append, List.getLast?_append, hspace]
      simp
    · have hkeep : Text.replace '\t' tab [c] = [c] :=
        Text.replace_of_not_mem fun hmem => htab (List.mem_singleton.mp hmem).symm
      rw [Text.replace_append, hkeep, List.getLast?_concat]
      rwa [List.getLast?_concat] at h

theorem tab_not_mem_normalizeLine (line : List Char) : '\t' ∉ normalizeLine line :=
  tab_not_mem_replace _

theorem feed_not_mem_normalizeLine {line : List Char} (h : '\n' ∉ line) :
    '\n' ∉ normalizeLine line := by
  intro hmem
  rcases Text.mem_replace hmem with hspace | ⟨hfeed, -⟩
  · exact absurd hspace (by decide)
  · split at hfeed
    · exact h (List.dropLast_subset line hfeed)
    · exact h hfeed

theorem normalizeLine_of_plain {line : List Char} (htab : '\t' ∉ line)
    (hlast : line.getLast? ≠ some '\r') : normalizeLine line = line := by
  rw [normalizeLine_eq, withoutReturn_of_getLast? hlast, Text.replace_of_not_mem htab]

theorem normalizeLine_replace (line : List Char) :
    normalizeLine (Text.replace '\t' tab line) = normalizeLine line := by
  by_cases hlast : line.getLast? = some '\r'
  · obtain ⟨init, rfl⟩ := List.getLast?_eq_some_iff.mp hlast
    have hreturn : Text.replace '\t' tab (init ++ ['\r']) =
        Text.replace '\t' tab init ++ ['\r'] := Text.replace_append init ['\r']
    rw [normalizeLine_eq, hreturn, withoutReturn_append, normalizeLine_eq, withoutReturn_append]
    exact Text.replace_of_not_mem (tab_not_mem_replace init)
  · rw [normalizeLine_of_plain (tab_not_mem_replace line) (getLast?_replace hlast),
      normalizeLine_eq, withoutReturn_of_getLast? hlast]

theorem normalizeLine_append_return {line : List Char} (h : '\r' ∉ line) :
    normalizeLine (line ++ ['\r']) = normalizeLine line := by
  have hlast : line.getLast? ≠ some '\r' := fun hr => h (List.mem_of_getLast? hr)
  rw [normalizeLine_eq, normalizeLine_eq, withoutReturn_append, withoutReturn_of_getLast? hlast]

/-! ## Sources -/

/-- The lines that are kept of a text. -/
def normalized (text : List Char) : List (List Char) := (Text.splitLines text).map normalizeLine

theorem toList_parse (source : String) :
    (parse source).lines.toList = (normalized source.toList).map String.ofList := by
  rw [normalized, List.map_map]
  rfl

theorem parse_eq_of_normalized {source source' : String}
    (h : normalized source.toList = normalized source'.toList) : parse source = parse source' := by
  have hlines : (parse source).lines = (parse source').lines := by
    rw [← Array.toList_inj, toList_parse, toList_parse, h]
  exact congrArg Script.mk hlines

theorem exists_of_mem_parse {source line : String} (h : line ∈ (parse source).lines) :
    ∃ text ∈ Text.splitLines source.toList, line.toList = normalizeLine text := by
  rw [← Array.mem_toList_iff, toList_parse, normalized, List.map_map] at h
  obtain ⟨text, htext, rfl⟩ := List.mem_map.mp h
  exact ⟨text, htext, String.toList_ofList⟩

theorem length_parse (source : String) :
    (parse source).length = source.toList.count '\n' + 1 := by
  rw [← Text.length_splitLines, length, ← Array.length_toList, toList_parse, List.length_map,
    normalized, List.length_map]

theorem normalized_tabs (text : List Char) :
    normalized (Text.replace '\t' tab text) = normalized text := by
  rw [normalized, Text.splitLines_replace (by decide) (by decide), List.map_map]
  exact List.map_congr_left fun line _ => normalizeLine_replace line

theorem normalized_returns {text : List Char} (h : '\r' ∉ text) :
    normalized (Text.replace '\n' ['\r', '\n'] text) = normalized text := by
  induction text using Text.lines_induction with
  | last line hline => rw [Text.replace_of_not_mem hline]
  | more line rest hline ih =>
    rw [List.mem_append, not_or, List.mem_cons, not_or] at h
    have hfeed : '\n' ∉ line ++ ['\r'] := by simpa using hline
    have hsplit : Text.replace '\n' ['\r', '\n'] (line ++ '\n' :: rest) =
        (line ++ ['\r']) ++ '\n' :: Text.replace '\n' ['\r', '\n'] rest := by
      rw [Text.replace_append, Text.replace_of_not_mem hline, Text.replace_cons_self,
        List.append_assoc]
      rfl
    have hrest := ih h.2.2
    unfold normalized at hrest ⊢
    rw [hsplit, Text.splitLines_append _ hfeed, Text.splitLines_append rest hline, List.map_cons,
      List.map_cons, normalizeLine_append_return h.1, hrest]

theorem normalized_intercalate {text : List Char}
    (h : ∀ line ∈ normalized text, line.getLast? ≠ some '\r') :
    normalized (['\n'].intercalate (normalized text)) = normalized text := by
  have hne : normalized text ≠ [] := by
    rw [normalized, ne_eq, List.map_eq_nil_iff]
    exact Text.splitLines_ne_nil text
  have hfeed : ∀ line ∈ normalized text, '\n' ∉ line := by
    intro line hline
    obtain ⟨first, hfirst, rfl⟩ := List.mem_map.mp hline
    exact feed_not_mem_normalizeLine (Text.not_mem_of_mem_splitLines hfirst)
  have hplain : ∀ line ∈ normalized text, normalizeLine line = line := by
    intro line hline
    obtain ⟨first, hfirst, rfl⟩ := List.mem_map.mp hline
    exact normalizeLine_of_plain (tab_not_mem_normalizeLine first) (h _ hline)
  rw [normalized, Text.splitLines_intercalate hne hfeed, List.map_congr_left hplain, List.map_id']

/-! ## Other spellings of a source -/

/-- The lines of a script with a line feed between each two. -/
def source (script : Script) : String := "\n".intercalate script.lines.toList

/-- Ways to write a source that do not change its script. -/
inductive Respelled : String → String → Prop
  | spaces (source : String) :
      Respelled source (String.ofList (Text.replace '\t' [' ', ' ', ' ', ' '] source.toList))
  | returns {source : String} (h : '\r' ∉ source.toList) :
      Respelled source (String.ofList (Text.replace '\n' ['\r', '\n'] source.toList))
  | lines {source : String}
      (h : ∀ line ∈ (parse source).lines, line.toList.getLast? ≠ some '\r') :
      Respelled source (parse source).source

theorem toList_source_parse (source : String) :
    (parse source).source.toList = ['\n'].intercalate (normalized source.toList) := by
  rw [Script.source, String.toList_intercalate, toList_parse, List.map_map]
  congr 1
  exact (List.map_congr_left fun line _ => String.toList_ofList).trans (List.map_id _)

theorem Respelled.parse_eq {source source' : String} (h : Respelled source source') :
    parse source' = parse source := by
  apply parse_eq_of_normalized
  cases h with
  | spaces =>
    rw [String.toList_ofList]
    exact normalized_tabs source.toList
  | returns h =>
    rw [String.toList_ofList]
    exact normalized_returns h
  | lines h =>
    rw [toList_source_parse]
    refine normalized_intercalate fun line hline => ?_
    have hmem : String.ofList line ∈ (parse source).lines := by
      rw [← Array.mem_toList_iff, toList_parse]
      exact List.mem_map_of_mem hline
    have hlast := h _ hmem
    rwa [String.toList_ofList] at hlast

end Script

/-- A source has one more line than line feeds, and no line has a tab or a line feed in it. Spaces
for its tabs, carriage returns before its line feeds, when it has none of its own, and its lines
put together again, when none ends in a carriage return, change nothing about the script, in any
order and number; so neither do they about its runs, on any farm or in a session. -/
theorem respelled_sources_run_alike (source : String) :
    (Script.parse source).length = source.toList.count '\n' + 1 ∧
      (∀ line ∈ (Script.parse source).lines, '\t' ∉ line.toList ∧ '\n' ∉ line.toList) ∧
      ∀ source', Relation.EqvGen Script.Respelled source source' →
        Script.parse source' = Script.parse source ∧
          (∀ rules world n, ticks rules (Script.parse source') n world Program.start =
            ticks rules (Script.parse source) n world Program.start) ∧
          ∀ rules level, Session.start rules level (Script.parse source') =
            Session.start rules level (Script.parse source) := by
  refine ⟨Script.length_parse source, fun line hline => ?_, fun source' hsource => ?_⟩
  · obtain ⟨text, htext, hchars⟩ := Script.exists_of_mem_parse hline
    rw [hchars]
    exact ⟨Script.tab_not_mem_normalizeLine text,
      Script.feed_not_mem_normalizeLine (Text.not_mem_of_mem_splitLines htext)⟩
  · have hparse : Script.parse source' = Script.parse source := by
      induction hsource with
      | rel source source' h => exact h.parse_eq
      | refl source => rfl
      | symm source source' _ ih => exact ih.symm
      | trans source middle source' _ _ ih ih' => exact ih'.trans ih
    rw [hparse]
    exact ⟨rfl, fun _ _ _ => rfl, fun _ _ => rfl⟩

/-- Tabs, one of them at the end of a line, become spaces, and then the line feeds get carriage
returns. -/
theorem respelled_sources_run_alike_twice :
    (Script.parse "for i in range(2):\n\tplant()\t\n").length = 3 ∧
      Script.parse "for i in range(2):\r\n    plant()    \r\n" =
        Script.parse "for i in range(2):\n\tplant()\t\n" := by
  have hspaces := Script.Respelled.spaces "for i in range(2):\n\tplant()\t\n"
  have hspaced : String.ofList (Text.replace '\t' [' ', ' ', ' ', ' ']
      "for i in range(2):\n\tplant()\t\n".toList) = "for i in range(2):\n    plant()    \n" := by
    decide +kernel
  have hreturns := Script.Respelled.returns
    (by decide : '\r' ∉ "for i in range(2):\n    plant()    \n".toList)
  have hreturned : String.ofList (Text.replace '\n' ['\r', '\n']
      "for i in range(2):\n    plant()    \n".toList) =
        "for i in range(2):\r\n    plant()    \r\n" := by
    decide +kernel
  rw [hspaced] at hspaces
  rw [hreturned] at hreturns
  obtain ⟨hlength, -, hsame⟩ := respelled_sources_run_alike "for i in range(2):\n\tplant()\t\n"
  exact ⟨hlength.trans (by decide +kernel), (hsame _ (.trans _ _ _ (.rel _ _ hspaces)
    (.rel _ _ hreturns))).1⟩

end FarmScript
