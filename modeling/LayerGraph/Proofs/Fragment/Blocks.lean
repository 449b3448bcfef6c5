import LayerGraph.Proofs.Tidy

/-! # Blocks

    A block *embeds* code if its lines are those of the code with the same number of spaces in front
    of every line that is not blank. Indenting code gives such a block and the only one
    (`embeds_iff`), so the code can be read off a block again by taking the spaces away. Texts that
    are stacked keep their lines, and the lines say which texts were stacked (`eq_stack_iff`).
-/

namespace LayerGraph.Fragment

open Text (lines unlines isBlankText)

/-! ### Embedded code -/

/-- Takes so many characters off a line that is not blank. -/
def unpad (pad : Nat) (line : List Char) : List Char :=
  if isBlankText line then line else line.drop pad

/-- A block whose lines are those of the code, with so many spaces in front of those that are not
    blank. -/
structure Embeds (pad : Nat) (code : List Char) (block : List (List Char)) : Prop where
  padded : ∀ line ∈ block, isBlankText line = false → List.replicate pad ' ' <+: line
  unpadded : block.map (unpad pad) = lines code

theorem isBlankText_spaces (n : Nat) : isBlankText (List.replicate n ' ') = true := by
  unfold isBlankText
  rw [List.all_eq_true]
  intro c hc
  rw [List.eq_of_mem_replicate hc]
  decide

theorem isBlankText_spaces_append (n : Nat) (line : List Char) :
    isBlankText (List.replicate n ' ' ++ line) = isBlankText line := by
  rw [Text.isBlankText_append, isBlankText_spaces, Bool.true_and]

section level
variable (level : Nat)

theorem indentLine_of_blank {line : List Char} (h : isBlankText line = true) :
    indentLine level line = line := if_pos h

theorem indentLine_of_solid {line : List Char} (h : isBlankText line = false) :
    indentLine level line = List.replicate (indentWidth * level) ' ' ++ line := by
  unfold indentLine padding
  rw [h]
  rfl

/-- An indented line is the line behind spaces. -/
theorem exists_indentLine_eq (line : List Char) :
    ∃ k, indentLine level line = List.replicate k ' ' ++ line := by
  cases hblank : isBlankText line with
  | true => exact ⟨0, indentLine_of_blank level hblank⟩
  | false => exact ⟨_, indentLine_of_solid level hblank⟩

theorem isBlankText_indentLine (line : List Char) :
    isBlankText (indentLine level line) = isBlankText line := by
  obtain ⟨k, hk⟩ := exists_indentLine_eq level line
  rw [hk, isBlankText_spaces_append]

theorem not_mem_indentLine {line : List Char} (h : '\n' ∉ line) :
    '\n' ∉ indentLine level line := by
  obtain ⟨k, hk⟩ := exists_indentLine_eq level line
  rw [hk, List.mem_append, List.mem_replicate]
  simpa using h

/-- The spaces that were put in front of a line can be taken away again. -/
theorem unpad_indentLine (line : List Char) :
    unpad (indentWidth * level) (indentLine level line) = line := by
  unfold unpad
  cases hblank : isBlankText line with
  | true => rw [indentLine_of_blank level hblank, if_pos hblank]
  | false =>
    rw [indentLine_of_solid level hblank, isBlankText_spaces_append, hblank, if_neg nofun]
    exact List.drop_left' List.length_replicate

/-- Lines are told by what they become when they are indented. -/
theorem map_indentLine_inj {ls others : List (List Char)} :
    ls.map (indentLine level) = others.map (indentLine level) ↔ ls = others :=
  List.map_inj_right fun line other h => by
    rw [← unpad_indentLine level line, h, unpad_indentLine]

/-- Spaces that were taken away from a padded line can be put back. -/
theorem indentLine_unpad {line : List Char}
    (h : isBlankText line = false → List.replicate (indentWidth * level) ' ' <+: line) :
    indentLine level (unpad (indentWidth * level) line) = line := by
  unfold unpad
  cases hblank : isBlankText line with
  | true => rw [if_pos rfl, indentLine_of_blank level hblank]
  | false =>
    obtain ⟨rest, rfl⟩ := h hblank
    rw [isBlankText_spaces_append] at hblank
    rw [if_neg nofun, List.drop_left' List.length_replicate, indentLine_of_solid level hblank]

/-- The block that embeds code is the code with its lines indented. -/
theorem embeds_iff {code : List Char} {block : List (List Char)} :
    Embeds (indentWidth * level) code block ↔ block = (lines code).map (indentLine level) := by
  constructor
  · rintro ⟨hpadded, hunpadded⟩
    rw [← hunpadded, List.map_map]
    have hsame : ∀ line ∈ block, indentLine level (unpad (indentWidth * level) line) = line :=
      fun line hline => indentLine_unpad level (hpadded line hline)
    exact ((List.map_congr_left hsame).trans (List.map_id' block)).symm
  · rintro rfl
    refine ⟨?_, ?_⟩
    · rw [List.forall_mem_map]
      intro line _ hsolid
      rw [isBlankText_indentLine] at hsolid
      rw [indentLine_of_solid level hsolid]
      exact List.prefix_append _ _
    · rw [List.map_map]
      exact (List.map_congr_left fun line _ => unpad_indentLine level line).trans (List.map_id' _)

end level

/-- Indenting code indents its lines. -/
theorem lines_indent (code : String) (level : Nat) :
    lines (indent code level).toList = (lines code.toList).map (indentLine level) := by
  unfold indent indentChars
  rw [String.toList_ofList, Text.lines_unlines]
  · simp [Text.lines_ne_nil]
  · rw [List.forall_mem_map]
    exact fun line hline => not_mem_indentLine level (Text.not_mem_of_mem_lines hline)

/-- The lines of the body of a block. -/
theorem lines_body (code : String) (level : Nat) :
    lines (body code level).toList =
      if isBlank code = true then [indentLine level "pass".toList]
      else (lines (Text.trimBreaks code.toList)).map (indentLine level) := by
  unfold body bodyChars
  rw [lines_indent, String.toList_ofList, Text.isBlankText_trimBreaks]
  show _ = if isBlankText code.toList = true then _ else _
  split <;> rfl

/-- The block of an indented text embeds it, and no other block does. -/
theorem embeds_iff_lines_indent (code : List Char) (level : Nat) (block : List (List Char)) :
    Embeds (indentWidth * level) code block ↔
      block = lines (indent (String.ofList code) level).toList := by
  rw [embeds_iff, lines_indent, String.toList_ofList]

/-- Code that is not blank is told by the body it becomes, but for the line breaks at its ends. -/
theorem trimBreaks_eq_of_body_eq {code other : String} (hcode : isBlank code = false)
    (hother : isBlank other = false) {level : Nat} (h : body code level = body other level) :
    Text.trimBreaks code.toList = Text.trimBreaks other.toList := by
  have hlines := congrArg (fun text : String => lines text.toList) h
  simp only [lines_body, hcode, hother, Bool.false_eq_true, if_false] at hlines
  rw [← Text.unlines_lines (Text.trimBreaks code.toList), (map_indentLine_inj level).1 hlines,
    Text.unlines_lines]

/-! ### Stacked texts -/

theorem lines_stack {texts : List String} (h : texts ≠ []) :
    lines (stack texts).toList = texts.flatMap (lines ·.toList) := by
  rw [toList_stack, Text.lines_unlines_flatMap (by simpa using h), List.flatMap_map]

/-- A text is told by its lines. -/
theorem eq_iff_lines {s t : String} : s = t ↔ lines s.toList = lines t.toList := by
  refine ⟨fun h => by rw [h], fun h => ?_⟩
  rw [← String.toList_inj, ← Text.unlines_lines s.toList, h, Text.unlines_lines]

/-- Texts below the same ones are told by the stack. -/
theorem stack_concat_inj {front : List String} {last other : String} :
    stack (front ++ [last]) = stack (front ++ [other]) ↔ last = other := by
  refine ⟨fun h => eq_iff_lines.2 ?_, fun h => by rw [h]⟩
  have hlines := eq_iff_lines.1 h
  rw [lines_stack (List.concat_ne_nil _ _), lines_stack (List.concat_ne_nil _ _),
    List.flatMap_append, List.flatMap_append, List.flatMap_singleton,
    List.flatMap_singleton] at hlines
  exact List.append_cancel_left hlines

/-- A text is that of a stack exactly if it has the lines of the stacked texts. -/
theorem eq_stack_iff {code : String} {texts : List String} (h : texts ≠ []) :
    code = stack texts ↔ lines code.toList = texts.flatMap (lines ·.toList) := by
  rw [eq_iff_lines, lines_stack h]

/-- A text without a line break is a single line. -/
theorem lines_of_not_mem {cs : List Char} (h : '\n' ∉ cs) : lines cs = [cs] := by
  unfold lines Text.pieces
  rw [Text.cut_of_not_mem h]

theorem flatMap_lines_of_not_mem {texts : List String} (h : ∀ text ∈ texts, '\n' ∉ text.toList) :
    texts.flatMap (lines ·.toList) = texts.map String.toList := by
  induction texts with
  | nil => rfl
  | cons text rest ih =>
    obtain ⟨htext, hrest⟩ := List.forall_mem_cons.1 h
    rw [List.flatMap_cons, lines_of_not_mem htext, ih hrest]
    rfl

/-- Texts on single lines have their own lines when they are stacked. -/
theorem lines_stack_of_not_mem {texts : List String} (hne : texts ≠ [])
    (h : ∀ text ∈ texts, '\n' ∉ text.toList) :
    lines (stack texts).toList = texts.map String.toList := by
  rw [lines_stack hne, flatMap_lines_of_not_mem h]

/-- A text without empty lines has no line breaks at its ends. -/
theorem trimBreaks_of_not_mem {cs : List Char} (h : [] ∉ lines cs) : Text.trimBreaks cs = cs := by
  obtain ⟨before, after, hlines⟩ := Text.lines_eq_around_trimBreaks cs
  rw [hlines, List.mem_append, List.mem_append, List.mem_replicate, List.mem_replicate] at h
  obtain rfl : before = 0 := Classical.not_not.1 fun hpos => h (.inl (.inl ⟨hpos, rfl⟩))
  obtain rfl : after = 0 := Classical.not_not.1 fun hpos => h (.inr ⟨hpos, rfl⟩)
  rw [List.replicate_zero, List.nil_append, List.append_nil] at hlines
  have htexts := congrArg Text.unlines hlines
  rw [Text.unlines_lines, Text.unlines_lines] at htexts
  exact htexts.symm

/-- Single lines that are not blank are the body of a block, with spaces in front of each. -/
theorem lines_body_stack {texts : List String} (hne : texts ≠ [])
    (h : ∀ text ∈ texts, '\n' ∉ text.toList ∧ isBlankText text.toList = false) (level : Nat) :
    lines (body (stack texts) level).toList =
      texts.map fun text => List.replicate (indentWidth * level) ' ' ++ text.toList := by
  have hlines := lines_stack_of_not_mem hne fun text htext => (h text htext).1
  have hsolid : ∀ line ∈ lines (stack texts).toList, isBlankText line = false := by
    rw [hlines]
    exact List.forall_mem_map.2 fun text htext => (h text htext).2
  have hblank : isBlank (stack texts) = false := by
    obtain ⟨text, htext⟩ := List.exists_mem_of_ne_nil _ hne
    unfold isBlank
    rw [Text.isBlankText_eq_all, hlines]
    exact List.all_eq_false.2 ⟨_, List.mem_map_of_mem htext, by rw [(h text htext).2]; exact nofun⟩
  have htrim : Text.trimBreaks (stack texts).toList = (stack texts).toList :=
    trimBreaks_of_not_mem fun hmem => absurd (hsolid [] hmem) nofun
  rw [lines_body, hblank, if_neg Bool.false_ne_true, htrim, hlines, List.map_map]
  exact List.map_congr_left fun text htext => indentLine_of_solid level (h text htext).2

/-- Texts without line breaks make a single line. -/
theorem lines_around {before middle behind : String} (hbefore : '\n' ∉ before.toList)
    (hmiddle : '\n' ∉ middle.toList) (hbehind : '\n' ∉ behind.toList) :
    lines (before ++ middle ++ behind).toList = [(before ++ middle ++ behind).toList] := by
  apply lines_of_not_mem
  rw [String.toList_append, String.toList_append, List.mem_append, List.mem_append]
  exact fun hmem => hmem.elim (fun h => h.elim hbefore hmiddle) hbehind

end LayerGraph.Fragment
