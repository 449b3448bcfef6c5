import LayerGraph.Proofs.Fragment.Blocks
import Mathlib.Data.List.DropRight

/-! # Levels of indentation

    Indentation acts on texts: indenting twice is indenting once, by the sum of the levels
    (`indent_indent`), and no text is lost on the way (`indent_inj`). It also does not matter
    whether code is made tidy before or after (`tidy_indent`). Both work line by line, and a line
    loses the blanks at its end whatever stands in front of it; the empty lines at the two ends of a
    text stay empty, so the same ones are taken away. Hence fragments may be indented one by one
    before they are assembled, or all of them together after (`indent_acts_exactly`).
-/

namespace LayerGraph.Fragment

open Text (lines unlines trimEnd isBlankText dropEndWhile)

/-! ### Sums of levels -/

/-- A level below zero is none. -/
theorem indent_toNat (code : String) (level : Int) :
    indent code level.toNat = indent code level := by
  have hline : indentLine (level.toNat : Int) = indentLine level := by
    funext line
    unfold indentLine padding
    rw [Int.toNat_natCast]
  unfold indent indentChars
  rw [hline]

/-- Spaces are put in front of a line with spaces in front. -/
theorem indentLine_indentLine (m n : Nat) (line : List Char) :
    indentLine n (indentLine m line) = indentLine (m + n : Nat) line := by
  cases hblank : isBlankText line with
  | true =>
    rw [indentLine_of_blank m hblank, indentLine_of_blank n hblank, indentLine_of_blank _ hblank]
  | false =>
    have hsolid := (isBlankText_indentLine m line).trans hblank
    rw [indentLine_of_solid n hsolid, indentLine_of_solid m hblank, indentLine_of_solid _ hblank,
      ← List.append_assoc, List.replicate_append_replicate, Nat.mul_add, Nat.add_comm]

theorem indent_indent (code : String) (m n : Nat) :
    indent (indent code m) n = indent code (m + n : Nat) := by
  rw [eq_iff_lines, lines_indent, lines_indent, lines_indent, List.map_map]
  exact List.map_congr_left fun line _ => indentLine_indentLine m n line

/-- Code is told by what it becomes when it is indented. -/
theorem indent_inj {code other : String} {level : Nat} :
    indent code level = indent other level ↔ code = other := by
  rw [eq_iff_lines, lines_indent, lines_indent, map_indentLine_inj, ← eq_iff_lines]

/-- Texts that are stacked are indented one by one. -/
theorem indent_stack (texts : List String) (level : Nat) :
    indent (stack texts) level = stack (texts.map (indent · level)) := by
  by_cases hnil : texts = []
  · subst hnil
    rfl
  · rw [eq_iff_lines, lines_indent, lines_stack hnil, lines_stack (by simpa using hnil),
      List.map_flatMap, List.flatMap_map]
    simp only [lines_indent]

/-! ### Empty lines at the ends -/

/-- Lines without the empty ones at the two ends. -/
def trimLines (ls : List (List Char)) : List (List Char) :=
  (ls.dropWhile List.isEmpty).rdropWhile List.isEmpty

/-- A change of lines that keeps empty ones empty, and makes no other line empty, can be made before
    the empty ones at the ends are taken away or after. -/
theorem trimLines_map {f : List Char → List Char} (h : ∀ line, (f line).isEmpty = line.isEmpty)
    (ls : List (List Char)) : trimLines (ls.map f) = (trimLines ls).map f := by
  have hf : List.isEmpty ∘ f = List.isEmpty := funext h
  unfold trimLines List.rdropWhile
  rw [List.dropWhile_map, hf, ← List.map_reverse, List.dropWhile_map, hf, List.map_reverse]

theorem mem_of_mem_trimLines {ls : List (List Char)} {line : List Char}
    (h : line ∈ trimLines ls) : line ∈ ls :=
  (List.dropWhile_suffix _).subset ((List.rdropWhile_prefix _ _).subset h)

theorem unlines_concat {ls : List (List Char)} (h : ls ≠ []) (last : List Char) :
    unlines (ls ++ [last]) = unlines ls ++ '\n' :: last := by
  induction ls with
  | nil => exact absurd rfl h
  | cons first rest ih =>
    cases rest with
    | nil => exact List.append_assoc first ['\n'] last
    | cons second others =>
      show first ++ ['\n'] ++ unlines (second :: others ++ [last]) = _
      rw [ih (List.cons_ne_nil _ _), ← List.append_assoc]
      rfl

section breaks
variable {ls : List (List Char)} (hls : ∀ line ∈ ls, '\n' ∉ line)
include hls

/-- The line breaks in front of a text are its first lines, as far as they are empty. -/
theorem dropWhile_unlines :
    (unlines ls).dropWhile (· == '\n') = unlines (ls.dropWhile List.isEmpty) := by
  induction ls with
  | nil => rfl
  | cons first rest ih =>
    obtain ⟨hfirst, hrest⟩ := List.forall_mem_cons.1 hls
    cases first with
    | nil =>
      rw [List.dropWhile_cons_of_pos rfl, ← ih hrest]
      cases rest with
      | nil => rfl
      | cons second others => exact List.dropWhile_cons_of_pos rfl
    | cons c line =>
      -- the text begins with the first character of this line
      have hc : c ≠ '\n' := fun h => hfirst (h ▸ List.mem_cons_self)
      rw [List.dropWhile_cons_of_neg Bool.false_ne_true, unlines, Text.join_cons_head,
        List.dropWhile_cons_of_neg (by simpa using hc)]

/-- The line breaks behind a text are its last lines, as far as they are empty. -/
theorem dropEndWhile_unlines :
    dropEndWhile (· == '\n') (unlines ls) = unlines (ls.rdropWhile List.isEmpty) := by
  -- the induction is on the lines from the end, where they are taken away
  induction ls using List.reverseRecOn with
  | nil => rfl
  | append_singleton front last ih =>
    obtain ⟨hfront, hlast⟩ := List.forall_mem_append.1 hls
    cases last with
    | nil =>
      rw [List.rdropWhile_concat_pos _ _ _ rfl, ← ih hfront]
      by_cases hnil : front = []
      · subst hnil
        rfl
      · rw [unlines_concat hnil]
        exact Text.dropEndWhile_append_of_all (by simp)
    | cons c line =>
      rw [List.rdropWhile_concat_neg _ _ _ Bool.false_ne_true]
      refine Text.dropEndWhile_of_getLast? fun d hd => ?_
      -- the last character of the text stands on the last line, as that is not empty
      have hmem : d ∈ c :: line := by
        by_cases hnil : front = []
        · subst hnil
          exact List.mem_of_getLast? hd
        · rw [unlines_concat hnil, List.getLast?_append, List.getLast?_cons_cons] at hd
          exact List.mem_of_getLast? (by simpa [List.getLast?_cons] using hd)
      have hd : d ≠ '\n' := fun h => hlast (c :: line) List.mem_cons_self (h ▸ hmem)
      simpa using hd

/-- Trimming the line breaks of a text takes the empty lines at its two ends away. -/
theorem trimBreaks_unlines : Text.trimBreaks (unlines ls) = unlines (trimLines ls) := by
  unfold Text.trimBreaks Text.trimWhile trimLines
  rw [dropWhile_unlines hls, dropEndWhile_unlines]
  exact fun line hline => hls line ((List.dropWhile_suffix _).subset hline)

/-- Lines that are put together are indented one by one. -/
theorem indentChars_unlines (level : Nat) :
    indentChars level (unlines ls) = unlines (ls.map (indentLine level)) := by
  unfold indentChars
  by_cases hnil : ls = []
  · subst hnil
    rfl
  · rw [Text.lines_unlines hnil hls]

end breaks

/-! ### Indentation of tidy code -/

/-- What is cut off at the end of a text is the same whatever stands in front of it, as long as
    something of the text is kept. -/
theorem dropEndWhile_append {p : Char → Bool} {cs : List Char} (h : dropEndWhile p cs ≠ [])
    (front : List Char) : dropEndWhile p (front ++ cs) = front ++ dropEndWhile p cs := by
  induction front with
  | nil => rfl
  | cons c front ih =>
    have hkept : (front ++ dropEndWhile p cs).isEmpty = false := by simp [h]
    rw [List.cons_append, Text.dropEndWhile_cons, ih, hkept, Bool.false_and,
      if_neg Bool.false_ne_true, List.cons_append]

/-- It makes no difference whether a line is indented before its end is cut or after. -/
theorem trimEnd_indentLine (level : Nat) (line : List Char) :
    trimEnd (indentLine level line) = indentLine level (trimEnd line) := by
  have hsame := Text.isBlankText_trimEnd line
  cases hblank : isBlankText line with
  | true => rw [indentLine_of_blank level hblank, indentLine_of_blank level (hsame.trans hblank)]
  | false =>
    -- what is left of the line is not blank either, so the spaces in front of it are not reached
    rw [hblank] at hsame
    rw [indentLine_of_solid level hblank, indentLine_of_solid level hsame]
    refine dropEndWhile_append (fun hnil => ?_) _
    rw [trimEnd, hnil] at hsame
    exact absurd hsame nofun

theorem isEmpty_indentLine (level : Nat) (line : List Char) :
    (indentLine level line).isEmpty = line.isEmpty := by
  cases hblank : isBlankText line with
  | true => rw [indentLine_of_blank level hblank]
  | false =>
    cases line with
    | nil => exact absurd hblank nofun
    | cons c line =>
      rw [indentLine_of_solid level hblank]
      simp

/-- Making a text tidy trims its lines, then the lines as a whole. -/
theorem tidyChars_eq_unlines (cs : List Char) :
    tidyChars cs = unlines (trimLines ((lines cs).map trimEnd)) :=
  trimBreaks_unlines fun _ => not_mem_of_mem_map_trimEnd

/-- Making code tidy and indenting it can change places. -/
theorem tidy_indent (code : String) (level : Nat) :
    tidy (indent code level) = indent (tidy code) level := by
  have hline : trimEnd ∘ indentLine level = indentLine level ∘ trimEnd :=
    funext (trimEnd_indentLine level)
  have hbreaks : ∀ line ∈ trimLines ((lines code.toList).map trimEnd), '\n' ∉ line :=
    fun line hline => not_mem_of_mem_map_trimEnd (mem_of_mem_trimLines hline)
  have hchars : tidyChars (indent code level).toList =
      indentChars level (tidyChars code.toList) := by
    calc tidyChars (indent code level).toList
      _ = unlines (trimLines (((lines code.toList).map (indentLine level)).map trimEnd)) := by
        rw [tidyChars_eq_unlines, lines_indent]
      _ = unlines (trimLines (((lines code.toList).map trimEnd).map (indentLine level))) := by
        rw [List.map_map, hline, List.map_map]
      _ = unlines ((trimLines ((lines code.toList).map trimEnd)).map (indentLine level)) := by
        rw [trimLines_map (isEmpty_indentLine level)]
      _ = indentChars level (tidyChars code.toList) := by
        rw [tidyChars_eq_unlines, indentChars_unlines hbreaks]
  unfold tidy
  rw [hchars]
  unfold indent
  rw [String.toList_ofList]

/-- Fragments are indented one by one before they are assembled, or together after. -/
theorem assemble_indent (fragments : List String) (level : Nat) :
    assemble (fragments.map (indent · level)) none = indent (assemble fragments none) level := by
  rw [assemble_none, ← indent_stack, tidy_indent, assemble_none]

/-! ### Indentation as an action -/

/-- Indentation is an exact action on texts.

    Indenting code by one level and then by another is indenting it by their sum, where levels below
    zero count as none. No two texts become the same one: the lines of the result are those of the
    code with exactly four spaces for each level in front of those that are not blank, and there are
    as many of them, blank at the same places. Making the result tidy is indenting tidy code, and
    fragments that are indented are assembled into indented code. -/
theorem indent_acts_exactly (code : String) (level : Int) :
    (∀ further : Int, indent (indent code level) further =
      indent code (max level 0 + max further 0)) ∧
    (∀ other : String, indent code level = indent other level ↔ code = other) ∧
    Embeds (4 * level.toNat) code.toList (lines (indent code level).toList) ∧
    (lines (indent code level).toList).length = (lines code.toList).length ∧
    (lines (indent code level).toList).map isBlankText = (lines code.toList).map isBlankText ∧
    tidy (indent code level) = indent (tidy code) level ∧
    ∀ fragments : List String, assemble (fragments.map (indent · level)) none =
      indent (assemble fragments none) level := by
  -- a level below zero is none, so it is enough to indent by numbers
  obtain ⟨n, hn⟩ : ∃ n : Nat, level.toNat = n := ⟨_, rfl⟩
  have hlevel : ∀ text, indent text level = indent text n := fun text => by
    rw [← hn, indent_toNat]
  simp only [hlevel, hn]
  refine ⟨fun further => ?_, fun other => indent_inj, ?_, ?_, ?_, tidy_indent code n,
    fun fragments => assemble_indent fragments n⟩
  · have hsum : (max level 0 + max further 0).toNat = n + further.toNat := by omega
    rw [← indent_toNat _ further, indent_indent, ← hsum, indent_toNat]
  · exact (embeds_iff n).2 (lines_indent code n)
  · rw [lines_indent, List.length_map]
  · rw [lines_indent, List.map_map]
    exact List.map_congr_left fun line _ => isBlankText_indentLine n line

end LayerGraph.Fragment
