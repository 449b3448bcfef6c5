import LayerGraph.Fragment
import LayerGraph.Proofs.Text.Trimming

/-! # Tidy code

    A text is *tidy* if no line of it ends in a blank and no line break stands at either end. Making
    a text tidy gives a tidy text (`tidyChars_isTidy`) and leaves a tidy one as it is
    (`tidyChars_of_isTidy`), so doing it twice is doing it once. No line that holds anything is lost
    on the way: the *solid* lines of the result are those of the text without the blanks at their
    ends (`solidLines_tidyChars`).
-/

namespace LayerGraph.Fragment

open Text (lines unlines trimEnd isBlankText)

/-! ### Tidy texts -/

/-- No line ends in a blank, and no line break stands at either end. -/
structure IsTidy (cs : List Char) : Prop where
  lines_trimmed : ∀ line ∈ lines cs, trimEnd line = line
  ends_trimmed : Text.trimBreaks cs = cs

/-- Trimming line breaks gives no line that was not there before. -/
theorem mem_lines_of_mem_lines_trimBreaks {cs line : List Char}
    (h : line ∈ lines (Text.trimBreaks cs)) : line ∈ lines cs := by
  obtain ⟨before, after, split⟩ := Text.lines_eq_around_trimBreaks cs
  rw [split]
  exact List.mem_append_left _ (List.mem_append_right _ h)

/-- Cutting the blanks at the ends of lines makes no new lines. -/
theorem not_mem_of_mem_map_trimEnd {cs line : List Char} (h : line ∈ (lines cs).map trimEnd) :
    '\n' ∉ line := by
  obtain ⟨original, horiginal, rfl⟩ := List.mem_map.1 h
  exact fun hbreak => Text.not_mem_of_mem_lines horiginal (Text.mem_of_mem_dropEndWhile hbreak)

theorem lines_unlines_map_trimEnd (cs : List Char) :
    lines (unlines ((lines cs).map trimEnd)) = (lines cs).map trimEnd :=
  Text.lines_unlines (by simp [Text.lines_ne_nil]) fun _ => not_mem_of_mem_map_trimEnd

theorem tidyChars_isTidy (cs : List Char) : IsTidy (tidyChars cs) where
  lines_trimmed := by
    intro line hline
    have hline' := mem_lines_of_mem_lines_trimBreaks hline
    rw [lines_unlines_map_trimEnd] at hline'
    obtain ⟨original, _, rfl⟩ := List.mem_map.1 hline'
    exact Text.dropEndWhile_idem _ original
  ends_trimmed := Text.trimWhile_idem _ _

theorem tidyChars_of_isTidy {cs : List Char} (h : IsTidy cs) : tidyChars cs = cs := by
  have hlines : (lines cs).map trimEnd = lines cs := by
    rw [List.map_congr_left h.lines_trimmed, List.map_id']
  unfold tidyChars
  rw [hlines, Text.unlines_lines, h.ends_trimmed]

/-- Making code tidy a second time changes nothing. -/
theorem tidy_tidy (code : String) : tidy (tidy code) = tidy code := by
  unfold tidy
  rw [String.toList_ofList, tidyChars_of_isTidy (tidyChars_isTidy _)]

/-! ### Stacks -/

theorem toList_stack (texts : List String) :
    (stack texts).toList = unlines (texts.map String.toList) := by
  unfold stack unlines
  rw [Text.join_eq_intercalate, String.toList_intercalate]
  rfl

theorem stack_singleton (text : String) : stack [text] = text := String.intercalate_singleton

/-! ### Assembly -/

theorem assemble_none (fragments : List String) :
    assemble fragments none = tidy (stack fragments) := rfl

/-- The formatter sees what is assembled without it, unless that is empty. -/
theorem assemble_some (fragments : List String) (format : Formatter) :
    assemble fragments (some format) =
      if (assemble fragments none).isEmpty then assemble fragments none
      else tidy (format (assemble fragments none)) := rfl

/-- Assembling code that is assembled already changes nothing. -/
theorem assemble_assemble (fragments : List String) :
    assemble [assemble fragments none] none = assemble fragments none := by
  rw [assemble_none, stack_singleton, assemble_none, tidy_tidy]

/-- It makes no difference whether the formatter is given with the fragments or afterwards. -/
theorem assemble_assemble_some (fragments : List String) (format : Formatter) :
    assemble [assemble fragments none] (some format) = assemble fragments (some format) := by
  rw [assemble_some, assemble_assemble, assemble_some]

/-! ### Solid lines -/

/-- The lines of a text that hold more than blanks. -/
def solidLines (cs : List Char) : List (List Char) := (lines cs).filter (!isBlankText ·)

theorem solidLines_replicate_nil (n : Nat) :
    (List.replicate n ([] : List Char)).filter (!isBlankText ·) = [] := by
  rw [List.filter_eq_nil_iff]
  intro line hline
  rw [List.eq_of_mem_replicate hline]
  exact Bool.false_ne_true

theorem solidLines_trimBreaks (cs : List Char) :
    solidLines (Text.trimBreaks cs) = solidLines cs := by
  obtain ⟨before, after, split⟩ := Text.lines_eq_around_trimBreaks cs
  unfold solidLines
  rw [split, List.filter_append, List.filter_append, solidLines_replicate_nil,
    solidLines_replicate_nil, List.nil_append, List.append_nil]

/-- Making a text tidy keeps its solid lines, in order, without the blanks at their ends. -/
theorem solidLines_tidyChars (cs : List Char) :
    solidLines (tidyChars cs) = (solidLines cs).map trimEnd := by
  unfold tidyChars
  rw [solidLines_trimBreaks]
  unfold solidLines
  rw [lines_unlines_map_trimEnd, List.filter_map]
  congr 1
  apply List.filter_congr
  intro line _
  rw [Function.comp_apply, Text.isBlankText_trimEnd]

/-- A blank text has no solid lines. -/
theorem solidLines_of_isBlankText {cs : List Char} (h : isBlankText cs = true) :
    solidLines cs = [] := by
  unfold solidLines
  rw [List.filter_eq_nil_iff]
  intro line hline
  have hsub : ∀ c ∈ line, c ∈ cs := by
    intro c hc
    rw [← Text.unlines_lines cs]
    exact Text.mem_unlines_of_mem hline hc
  have hblank : isBlankText line = true :=
    List.all_eq_true.2 fun c hc => List.all_eq_true.1 h c (hsub c hc)
  simp [hblank]

theorem solidLines_unlines (texts : List (List Char)) :
    solidLines (unlines texts) = texts.flatMap solidLines := by
  by_cases hnil : texts = []
  · subst hnil
    rfl
  · unfold solidLines
    rw [Text.lines_unlines_flatMap hnil, List.filter_flatMap]

/-- The solid lines of assembled fragments are those of the fragments, one after the other. -/
theorem solidLines_assemble (fragments : List String) :
    solidLines (assemble fragments none).toList =
      fragments.flatMap fun fragment => (solidLines fragment.toList).map trimEnd := by
  rw [assemble_none]
  unfold tidy
  rw [String.toList_ofList, solidLines_tidyChars, toList_stack, solidLines_unlines,
    List.flatMap_map, List.map_flatMap]

end LayerGraph.Fragment
