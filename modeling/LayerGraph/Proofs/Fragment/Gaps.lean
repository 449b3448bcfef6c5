import LayerGraph.Proofs.Tidy

/-! # Gaps between lines

    A *gap* is a run of blank lines between two solid lines of a text that follow each other. Making
    a text tidy removes blank lines at its two ends only, and makes no line blank that was not, so
    all gaps keep their lengths (`gaps_tidyChars`). With this everything is known about assembled
    code: it is tidy whatever the formatter does, and without one it has the solid lines of the
    fragments, in order, with their indentation and with the gaps between them
    (`assembled_is_tidy`).
-/

namespace LayerGraph.Fragment

open Text (lines unlines trimEnd isBlankText)

/-! ### Gaps -/

/-- For each solid line, the number of blank lines between it and the solid line above it. In front
    of the first one there are `waiting` blank lines more. -/
def gapsAbove (waiting : Nat) : List (List Char) → List Nat
  | [] => []
  | line :: rest =>
    if isBlankText line then gapsAbove (waiting + 1) rest else waiting :: gapsAbove 0 rest

/-- The numbers of blank lines between any two solid lines that follow each other. What is above
    the first solid line is no gap. -/
def gaps (ls : List (List Char)) : List Nat := (gapsAbove 0 ls).tail

theorem gapsAbove_of_blank {line : List Char} (h : isBlankText line = true) (waiting : Nat)
    (rest : List (List Char)) : gapsAbove waiting (line :: rest) = gapsAbove (waiting + 1) rest :=
  if_pos h

theorem gapsAbove_of_solid {line : List Char} (h : isBlankText line = false) (waiting : Nat)
    (rest : List (List Char)) : gapsAbove waiting (line :: rest) = waiting :: gapsAbove 0 rest := by
  simp [gapsAbove, h]

section blanks
variable {blanks : List (List Char)} (hblanks : ∀ line ∈ blanks, isBlankText line = true)
include hblanks

/-- Blank lines in front of a text only wait for its first solid line. -/
theorem gapsAbove_blanks_append (waiting : Nat) (ls : List (List Char)) :
    gapsAbove waiting (blanks ++ ls) = gapsAbove (waiting + blanks.length) ls := by
  induction blanks generalizing waiting with
  | nil => rfl
  | cons line rest ih =>
    obtain ⟨hline, hrest⟩ := List.forall_mem_cons.1 hblanks
    rw [List.cons_append, gapsAbove_of_blank hline, ih hrest, List.length_cons]
    congr 1
    omega

/-- Blank lines behind a text are above no solid line. -/
theorem gapsAbove_append_blanks (waiting : Nat) (ls : List (List Char)) :
    gapsAbove waiting (ls ++ blanks) = gapsAbove waiting ls := by
  induction ls generalizing waiting with
  | nil =>
    have hnone := gapsAbove_blanks_append hblanks waiting []
    rw [List.append_nil] at hnone
    exact hnone
  | cons line rest ih =>
    rw [List.cons_append]
    by_cases hblank : isBlankText line = true
    · rw [gapsAbove_of_blank hblank, gapsAbove_of_blank hblank, ih]
    · rw [Bool.not_eq_true] at hblank
      rw [gapsAbove_of_solid hblank, gapsAbove_of_solid hblank, ih]

end blanks

/-- The lines that wait in front of a text count for its first solid line alone. -/
theorem tail_gapsAbove (waiting : Nat) (ls : List (List Char)) :
    (gapsAbove waiting ls).tail = gaps ls := by
  have hany : ∀ m n, (gapsAbove m ls).tail = (gapsAbove n ls).tail := by
    induction ls with
    | nil =>
      intro m n
      rfl
    | cons line rest ih =>
      intro m n
      by_cases hblank : isBlankText line = true
      · rw [gapsAbove_of_blank hblank, gapsAbove_of_blank hblank]
        exact ih (m + 1) (n + 1)
      · rw [Bool.not_eq_true] at hblank
        rw [gapsAbove_of_solid hblank, gapsAbove_of_solid hblank]
        rfl
  exact hany waiting 0

/-- Blank lines at the two ends are no gaps. -/
theorem gaps_around {front back : List (List Char)}
    (hfront : ∀ line ∈ front, isBlankText line = true)
    (hback : ∀ line ∈ back, isBlankText line = true) (ls : List (List Char)) :
    gaps (front ++ ls ++ back) = gaps ls := by
  unfold gaps
  rw [gapsAbove_append_blanks hback, gapsAbove_blanks_append hfront]
  exact tail_gapsAbove (0 + front.length) ls

/-- What changes lines without making any of them blank or solid leaves the gaps. -/
theorem gaps_map {f : List Char → List Char}
    (h : ∀ line, isBlankText (f line) = isBlankText line) (ls : List (List Char)) :
    gaps (ls.map f) = gaps ls := by
  have hall : ∀ waiting, gapsAbove waiting (ls.map f) = gapsAbove waiting ls := by
    induction ls with
    | nil =>
      intro waiting
      rfl
    | cons line rest ih =>
      intro waiting
      simp only [List.map_cons, gapsAbove, h, ih]
  exact congrArg List.tail (hall 0)

/-- Making a text tidy keeps its gaps. -/
theorem gaps_tidyChars (cs : List Char) : gaps (lines (tidyChars cs)) = gaps (lines cs) := by
  have hempty : ∀ (n : Nat), ∀ line ∈ List.replicate n ([] : List Char),
      isBlankText line = true := by
    intro n line hline
    rw [List.eq_of_mem_replicate hline]
    rfl
  -- the lines that are trimmed are empty, and cutting blanks off makes no other line blank
  obtain ⟨before, after, hsplit⟩ :=
    Text.lines_eq_around_trimBreaks (unlines ((lines cs).map trimEnd))
  rw [lines_unlines_map_trimEnd] at hsplit
  have hkept := gaps_around (hempty before) (hempty after) (lines (tidyChars cs))
  unfold tidyChars at hkept ⊢
  rw [← hkept, ← hsplit]
  exact gaps_map Text.isBlankText_trimEnd (lines cs)

/-! ### Tidy code -/

namespace IsTidy
variable {cs : List Char} (h : IsTidy cs)
include h

/-- No line of tidy code ends in a blank. -/
theorem isBlank_of_getLast? {line : List Char} (hline : line ∈ lines cs) {c : Char}
    (hc : line.getLast? = some c) : Text.isBlank c = false := by
  rw [← h.lines_trimmed line hline] at hc
  exact Text.getLast?_dropEndWhile Text.isBlank line c hc

/-- Tidy code does not begin with a line break. -/
theorem head?_ne : cs.head? ≠ some '\n' := by
  intro hhead
  have hsame := Text.dropWhile_trimWhile (· == '\n') cs
  have htrim : Text.trimWhile (· == '\n') cs = cs := h.ends_trimmed
  rw [htrim] at hsame
  obtain ⟨rest, rfl⟩ := List.head?_eq_some_iff.1 hhead
  rw [List.dropWhile_cons_of_pos (by rfl)] at hsame
  -- a text is not what is left of its own rest
  have hle := (List.dropWhile_suffix (· == '\n') (l := rest)).length_le
  rw [hsame, List.length_cons] at hle
  omega

/-- Tidy code does not end with a line break. -/
theorem getLast?_ne : cs.getLast? ≠ some '\n' := by
  intro hlast
  rw [← h.ends_trimmed] at hlast
  have hother := Text.getLast?_dropEndWhile (· == '\n') (cs.dropWhile (· == '\n')) '\n' hlast
  exact absurd hother (by decide)

end IsTidy

theorem isTidy_of_tidy_eq {code : String} (h : tidy code = code) : IsTidy code.toList := by
  have hcode : code.toList = tidyChars code.toList := by
    rw [← String.toList_ofList (l := tidyChars code.toList)]
    exact congrArg String.toList h.symm
  rw [hcode]
  exact tidyChars_isTidy code.toList

/-! ### Assembled code -/

/-- Assembled code is tidy, with a formatter and without one. -/
theorem tidy_assemble (fragments : List String) (formatter : Option Formatter) :
    tidy (assemble fragments formatter) = assemble fragments formatter := by
  cases formatter with
  | none => exact tidy_tidy (stack fragments)
  | some format =>
    rw [assemble_some]
    split
    · exact tidy_tidy (stack fragments)
    · exact tidy_tidy (format (assemble fragments none))

/-- Cutting off the blanks at the end of a solid line keeps those in front of it. -/
theorem takeWhile_trimEnd {line : List Char} (h : isBlankText line = false) :
    (trimEnd line).takeWhile Text.isBlank = line.takeWhile Text.isBlank := by
  obtain ⟨dropped, hsplit, -⟩ := Text.dropEndWhile_append_dropped Text.isBlank line
  have hsolid : isBlankText (trimEnd line) = false := (Text.isBlankText_trimEnd line).trans h
  -- the run of blanks in front ends within what is kept
  have hshort : ((trimEnd line).takeWhile Text.isBlank).length ≠ (trimEnd line).length := by
    intro hlength
    have hwhole := (List.takeWhile_prefix Text.isBlank (l := trimEnd line)).eq_of_length hlength
    have hblank : isBlankText (trimEnd line) = true := by
      unfold isBlankText
      rw [← hwhole]
      exact List.all_takeWhile
    rw [hsolid] at hblank
    exact absurd hblank Bool.false_ne_true
  have hline : line = trimEnd line ++ dropped := hsplit
  conv => rhs; rw [hline]
  rw [List.takeWhile_append, if_neg hshort]

theorem gaps_assemble (fragments : List String) :
    gaps (lines (assemble fragments none).toList) =
      gaps (fragments.flatMap (lines ·.toList)) := by
  rw [assemble_none]
  unfold tidy
  rw [String.toList_ofList, gaps_tidyChars, toList_stack]
  by_cases hnil : fragments = []
  · subst hnil
    rfl
  · rw [Text.lines_unlines_flatMap (by simpa using hnil), List.flatMap_map]

/-- Assembled code is in its final form.

    Whatever the fragments and the formatter are, making the code tidy again changes nothing, no
    line of it ends in a blank, and it neither begins nor ends with a line break. The formatter is
    given the code once if there is any, and not at all if there is none. Without a formatter the
    solid lines of the code are those of the fragments in order, each without the blanks at its end
    and with those in front of it, and the gaps between them are those between the lines of the
    fragments. -/
theorem assembled_is_tidy (fragments : List String) :
    (∀ formatter : Option Formatter,
      tidy (assemble fragments formatter) = assemble fragments formatter ∧
        (∀ line ∈ lines (assemble fragments formatter).toList, ∀ c, line.getLast? = some c →
          Text.isBlank c = false) ∧
        (assemble fragments formatter).toList.head? ≠ some '\n' ∧
        (assemble fragments formatter).toList.getLast? ≠ some '\n') ∧
    (∀ format : Formatter, assemble fragments (some format) =
      if assemble fragments none = "" then "" else tidy (format (assemble fragments none))) ∧
    solidLines (assemble fragments none).toList =
      (fragments.flatMap (solidLines ·.toList)).map trimEnd ∧
    (∀ fragment ∈ fragments, ∀ line ∈ solidLines fragment.toList,
      (∃ blanks, line = trimEnd line ++ blanks ∧ isBlankText blanks = true) ∧
        (trimEnd line).takeWhile Text.isBlank = line.takeWhile Text.isBlank) ∧
    gaps (lines (assemble fragments none).toList) =
      gaps (fragments.flatMap (lines ·.toList)) := by
  refine ⟨fun formatter => ?_, fun format => ?_, ?_, ?_, gaps_assemble fragments⟩
  · have htidy := isTidy_of_tidy_eq (tidy_assemble fragments formatter)
    refine ⟨tidy_assemble fragments formatter, ?_, htidy.head?_ne, htidy.getLast?_ne⟩
    intro line hline c hc
    exact htidy.isBlank_of_getLast? hline hc
  · rw [assemble_some]
    by_cases hempty : assemble fragments none = ""
    · rw [if_pos hempty, hempty]
      rfl
    · rw [if_neg hempty, if_neg (mt String.isEmpty_iff.1 hempty)]
  · rw [solidLines_assemble, List.map_flatMap]
  · intro fragment _ line hline
    obtain ⟨dropped, hsplit, hdropped⟩ := Text.dropEndWhile_append_dropped Text.isBlank line
    have hsolid : isBlankText line = false := by
      simpa using (List.mem_filter.1 hline).2
    exact ⟨⟨dropped, hsplit, List.all_eq_true.2 hdropped⟩, takeWhile_trimEnd hsolid⟩

/-- A fragment that is blank, and the empty last line of the one above it, are a gap of two lines.
    The formatter puts blanks around the code, and none of them is left. -/
theorem assembled_indented :
    let fragments := ["    x = 1  \n", " \t", "y = 2"]
    let padded : Formatter := fun code => "\n" ++ code ++ " \n"
    assemble fragments none = "    x = 1\n\n\ny = 2" ∧
      solidLines (assemble fragments none).toList = ["    x = 1".toList, "y = 2".toList] ∧
      gaps (lines (assemble fragments none).toList) = [2] ∧
      (∀ c, "    x = 1".toList.getLast? = some c → Text.isBlank c = false) ∧
      (trimEnd "    x = 1  ".toList).takeWhile Text.isBlank = "    ".toList ∧
      assemble fragments (some padded) = "    x = 1\n\n\ny = 2" ∧
      tidy (assemble fragments (some padded)) = assemble fragments (some padded) := by
  intro fragments padded
  obtain ⟨htidy, hformat, hsolid, hindent, hgaps⟩ := assembled_is_tidy fragments
  have hcode : assemble fragments none = "    x = 1\n\n\ny = 2" := by decide +kernel
  refine ⟨hcode, ?_, ?_, ?_, ?_, ?_, (htidy (some padded)).1⟩
  · rw [hsolid]
    decide +kernel
  · rw [hgaps]
    decide +kernel
  · exact (htidy none).2.1 _ (by rw [hcode]; decide +kernel)
  · rw [(hindent "    x = 1  \n" (by simp [fragments]) "    x = 1  ".toList (by decide +kernel)).2]
    decide +kernel
  · rw [hformat, hcode]
    decide +kernel

end LayerGraph.Fragment
