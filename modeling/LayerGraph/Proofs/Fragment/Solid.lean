import LayerGraph.Proofs.Fragment.Blocks

/-! # Solid lines and bare lines

    The solid lines of texts that are put together with line breaks are those of the texts, one
    after the other; a gap between them, a block of import lines above them and the spaces of an
    indentation add no others. The *bare* lines are the solid ones without the blanks around them:
    they say what stands in code, whatever block it stands in, and nothing that is done to fragments
    changes them (`bareLines_assemble`, `bareLines_indent`).
-/

namespace LayerGraph.Fragment

open Text (lines isBlankText)

/-! ### Solid lines -/

@[simp] theorem solidLines_nil : solidLines [] = [] := rfl

@[simp] theorem solidLines_append_break (xs ys : List Char) :
    solidLines (xs ++ '\n' :: ys) = solidLines xs ++ solidLines ys := by
  unfold solidLines
  rw [Text.lines_append_break, List.filter_append]

@[simp] theorem solidLines_cons_break (cs : List Char) :
    solidLines ('\n' :: cs) = solidLines cs := by
  rw [← List.nil_append ('\n' :: cs), solidLines_append_break, solidLines_nil, List.nil_append]

theorem solidLines_of_not_mem {cs : List Char} (hbreak : '\n' ∉ cs)
    (hsolid : isBlankText cs = false) : solidLines cs = [cs] := by
  unfold solidLines
  rw [lines_of_not_mem hbreak, List.filter_cons_of_pos (by rw [hsolid]; rfl), List.filter_nil]

theorem solidLines_stack (texts : List String) :
    solidLines (stack texts).toList = texts.flatMap (solidLines ·.toList) := by
  rw [toList_stack, solidLines_unlines, List.flatMap_map]

/-- Gaps between texts hold no solid lines. -/
theorem solidLines_spaced (texts : List String) :
    solidLines ("\n\n".intercalate texts).toList = texts.flatMap (solidLines ·.toList) := by
  induction texts with
  | nil => rfl
  | cons text rest ih =>
    by_cases hnil : rest = []
    · subst hnil
      rw [String.intercalate_singleton, List.flatMap_singleton]
    · rw [String.intercalate_cons_of_ne_nil hnil, List.flatMap_cons, ← ih, String.toList_append,
        String.toList_append, List.append_assoc]
      show solidLines (_ ++ '\n' :: '\n' :: _) = _
      rw [solidLines_append_break, solidLines_cons_break]
      rfl

/-- Import lines stand above the code. -/
theorem solidLines_withImports (code : String) (imports : List String) :
    solidLines (withImports code imports).toList =
      imports.flatMap (solidLines ·.toList) ++ solidLines code.toList := by
  rw [← solidLines_stack]
  unfold withImports
  dsimp only
  split
  · next hempty =>
    rw [String.isEmpty_iff.1 hempty]
    exact (List.nil_append _).symm
  · split
    · next hempty =>
      rw [String.isEmpty_iff.1 hempty]
      exact (List.append_nil _).symm
    · rw [String.toList_append, String.toList_append, List.append_assoc]
      show solidLines (_ ++ '\n' :: '\n' :: code.toList) = _
      rw [solidLines_append_break, solidLines_cons_break]

/-- Indenting puts spaces in front of every solid line. -/
theorem solidLines_indent (code : String) (level : Nat) :
    solidLines (indent code level).toList =
      (solidLines code.toList).map (List.replicate (indentWidth * level) ' ' ++ ·) := by
  unfold solidLines
  rw [lines_indent, List.filter_map]
  have hsame : (!isBlankText ·) ∘ indentLine level = (!isBlankText ·) :=
    funext fun line => congrArg (!·) (isBlankText_indentLine level line)
  rw [hsame]
  refine List.map_congr_left fun line hline => ?_
  exact indentLine_of_solid level (by simpa using (List.mem_filter.1 hline).2)

/-! ### Bare lines -/

/-- The lines that hold more than blanks, without the blanks around them. -/
def bareLines (code : String) : List (List Char) := (solidLines code.toList).map Text.trim

theorem bareLines_stack (texts : List String) :
    bareLines (stack texts) = texts.flatMap bareLines := by
  unfold bareLines
  rw [solidLines_stack, List.map_flatMap]

theorem bareLines_spaced (texts : List String) :
    bareLines ("\n\n".intercalate texts) = texts.flatMap bareLines := by
  unfold bareLines
  rw [solidLines_spaced, List.map_flatMap]

theorem bareLines_withImports (code : String) (imports : List String) :
    bareLines (withImports code imports) = imports.flatMap bareLines ++ bareLines code := by
  unfold bareLines
  rw [solidLines_withImports, List.map_append, List.map_flatMap]

theorem bareLines_trimBreaks (code : String) : bareLines (trimBreaks code) = bareLines code := by
  unfold bareLines trimBreaks
  rw [String.toList_ofList, solidLines_trimBreaks]

/-- Blanks at the ends of a line do not count, wherever they come from. -/
theorem trim_trimEnd (line : List Char) : Text.trim (Text.trimEnd line) = Text.trim line := by
  obtain ⟨dropped, hsplit, hdropped⟩ := Text.dropEndWhile_append_dropped Text.isBlank line
  conv => rhs; rw [hsplit]
  exact (Text.trimWhile_append_right hdropped).symm

theorem trim_spaces_append (n : Nat) (line : List Char) :
    Text.trim (List.replicate n ' ' ++ line) = Text.trim line := by
  refine Text.trimWhile_append_left fun c hc => ?_
  rw [List.eq_of_mem_replicate hc]
  decide

/-- Indenting code leaves its bare lines as they are. -/
theorem bareLines_indent (code : String) (level : Nat) :
    bareLines (indent code level) = bareLines code := by
  unfold bareLines
  rw [solidLines_indent, List.map_map]
  exact List.map_congr_left fun line _ => trim_spaces_append _ line

/-- The bare lines of assembled fragments are those of the fragments, one after the other. -/
theorem bareLines_assemble (fragments : List String) :
    bareLines (assemble fragments none) = fragments.flatMap bareLines := by
  unfold bareLines
  rw [solidLines_assemble, List.map_flatMap]
  congr 1
  funext fragment
  rw [List.map_map]
  exact List.map_congr_left fun line _ => trim_trimEnd line

theorem bareLines_of_isBlank {code : String} (h : isBlank code = true) : bareLines code = [] := by
  unfold bareLines
  rw [solidLines_of_isBlankText h]
  rfl

theorem mem_bareLines {code : String} {line : List Char} :
    line ∈ bareLines code ↔
      ∃ full ∈ lines code.toList, isBlankText full = false ∧ Text.trim full = line := by
  unfold bareLines solidLines
  simp [List.mem_map, List.mem_filter, and_assoc]

/-- A text without line breaks has one bare line, if any. -/
theorem eq_trim_of_mem_bareLines {code : String} (h : '\n' ∉ code.toList) {line : List Char}
    (hline : line ∈ bareLines code) : line = Text.trim code.toList := by
  obtain ⟨full, hfull, -, rfl⟩ := mem_bareLines.1 hline
  rw [lines_of_not_mem h, List.mem_singleton] at hfull
  rw [hfull]

/-- A character that is no blank is not trimmed. -/
theorem mem_trim {cs : List Char} {c : Char} (hc : c ∈ cs) (hsolid : Text.isBlank c = false) :
    c ∈ Text.trim cs := by
  obtain ⟨front, back, rfl⟩ := List.append_of_mem hc
  have hinfix : [c] <:+: front ++ c :: back := ⟨front, back, by simp⟩
  exact (Text.isInfix_trimWhile (List.forall_mem_singleton.2 hsolid) hinfix).subset
    List.mem_cons_self

end LayerGraph.Fragment
