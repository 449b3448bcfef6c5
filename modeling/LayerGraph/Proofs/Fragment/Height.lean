import LayerGraph.Proofs.Fragment.Solid
import Mathlib

/-! # The height of a text

    The *height* of a text is the number of its solid lines. It is the sum of the heights of the
    texts that are put together with line breaks, and nothing that is done to line breaks at the
    ends changes it. A text that is a single line when the blanks around it are cut off has a height
    of one at most (`height_le_one`).
-/

namespace LayerGraph.Fragment

open Text (lines isBlankText)

/-- The number of lines that hold more than blanks. -/
def height (cs : List Char) : Nat := (solidLines cs).length

/-! ### Parts -/

@[simp] theorem height_nil : height [] = 0 := rfl

theorem height_eq_zero_iff {cs : List Char} : height cs = 0 ↔ isBlankText cs = true := by
  unfold height solidLines
  rw [List.length_eq_zero_iff, List.filter_eq_nil_iff, Text.isBlankText_eq_all, List.all_eq_true]
  simp

/-- A text that holds more than blanks has a solid line. -/
theorem height_pos {cs : List Char} (h : isBlankText cs = false) : 0 < height cs := by
  rw [Nat.pos_iff_ne_zero, Ne, height_eq_zero_iff, h]
  exact nofun

@[simp] theorem height_append_break (xs ys : List Char) :
    height (xs ++ '\n' :: ys) = height xs + height ys := by
  unfold height
  rw [solidLines_append_break, List.length_append]

@[simp] theorem height_cons_break (cs : List Char) : height ('\n' :: cs) = height cs := by
  rw [← List.nil_append ('\n' :: cs), height_append_break, height_nil, Nat.zero_add]

@[simp] theorem height_trimBreaks (cs : List Char) : height (Text.trimBreaks cs) = height cs := by
  unfold height
  rw [solidLines_trimBreaks]

theorem height_stack (texts : List String) :
    height (stack texts).toList = (texts.map (height ·.toList)).sum := by
  unfold height
  rw [solidLines_stack, List.length_flatMap]

/-- A stack is at least as high as each of its texts. -/
theorem height_le_height_stack {texts : List String} {text : String} (h : text ∈ texts) :
    height text.toList ≤ height (stack texts).toList := by
  obtain ⟨before, after, rfl⟩ := List.append_of_mem h
  rw [height_stack, List.map_append, List.sum_append, List.map_cons, List.sum_cons]
  omega

/-- Texts one empty line apart are as high as all of them together. -/
theorem height_spaced (texts : List String) :
    height ("\n\n".intercalate texts).toList = (texts.map (height ·.toList)).sum := by
  unfold height
  rw [solidLines_spaced, List.length_flatMap]

/-- Indenting leaves the height as it is. -/
theorem height_indent (code : String) (level : Nat) :
    height (indent code level).toList = height code.toList := by
  unfold height
  rw [solidLines_indent, List.length_map]

/-- Import lines stand above the code. -/
theorem height_withImports (code : String) (imports : List String) :
    height (withImports code imports).toList =
      height (stack imports).toList + height code.toList := by
  unfold height
  rw [solidLines_withImports, ← solidLines_stack, List.length_append]

/-! ### Single lines -/

/-- Blanks in front of a text do not make it higher. -/
theorem height_blank_append {blanks : List Char} (h : isBlankText blanks = true)
    (cs : List Char) : height (blanks ++ cs) = height cs := by
  induction blanks with
  | nil => rfl
  | cons c blanks ih =>
    obtain ⟨hc, hrest⟩ := Bool.and_eq_true_iff.1 h
    rw [List.cons_append, ← ih hrest]
    by_cases hbreak : c = '\n'
    · rw [hbreak, height_cons_break]
    · -- the first line is blank with the character exactly if it is without
      unfold height solidLines lines Text.pieces
      rw [Text.cut_cons_of_ne hbreak, List.filter_cons, List.filter_cons]
      have hsame : isBlankText (c :: (Text.cut '\n' (blanks ++ cs)).1) =
          isBlankText (Text.cut '\n' (blanks ++ cs)).1 := by
        show (Text.isBlank c && _) = _
        rw [hc, Bool.true_and]
        rfl
      rw [hsame]
      split <;> rfl

/-- Blanks behind a single line do not add another. -/
theorem height_append_blank_le_one {line blanks : List Char} (hline : '\n' ∉ line)
    (h : isBlankText blanks = true) : height (line ++ blanks) ≤ 1 := by
  have hone : ∀ cs : List Char, '\n' ∉ cs → height cs ≤ 1 := by
    intro cs hcs
    unfold height solidLines
    rw [lines_of_not_mem hcs]
    exact List.length_filter_le _ _
  by_cases hbreak : '\n' ∈ blanks
  · obtain ⟨before, after, rfl, hfirst⟩ := List.eq_append_cons_of_mem hbreak
    -- what stands behind the first line break is blank
    rw [Text.isBlankText_append, Bool.and_eq_true] at h
    have hafter : height after = 0 := by rw [← height_cons_break, height_eq_zero_iff, h.2]
    rw [← List.append_assoc, height_append_break, hafter]
    refine hone _ fun hmem => ?_
    exact (List.mem_append.1 hmem).elim hline hfirst
  · refine hone _ fun hmem => ?_
    exact (List.mem_append.1 hmem).elim hline hbreak

/-- A text that is a single line without the blanks around it is not higher than one line. -/
theorem height_le_one {cs : List Char} (h : '\n' ∉ Text.trim cs) : height cs ≤ 1 := by
  obtain ⟨before, after, hsplit, hbefore, hafter⟩ := Text.exists_trimWhile Text.isBlank cs
  rw [hsplit, List.append_assoc, height_blank_append (List.all_eq_true.2 hbefore)]
  exact height_append_blank_le_one h (List.all_eq_true.2 hafter)

end LayerGraph.Fragment
