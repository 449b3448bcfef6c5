import LayerGraph.Proofs.Fragment.Solid
import Mathlib

/-! # How often a line stands in code

    A line *occurs* in code as often as it is one of the bare lines, wherever it is indented to.
    What is put together has the occurrences of its parts, and a text that stands in the middle of a
    line has those of its inner lines at most: where it touches what is around it, there is more on
    the line (`occurrences_around`).
-/

namespace LayerGraph.Fragment

open Text (lines)

/-- How often a line stands in code, not counting the blanks around it. -/
def occurrences (line code : String) : Nat := (bareLines code).count line.toList

section line
variable {line : String}

theorem occurrences_eq_zero_iff {code : String} :
    occurrences line code = 0 ↔ line.toList ∉ bareLines code := List.count_eq_zero

theorem count_flatMap_bareLines (texts : List String) :
    (texts.flatMap bareLines).count line.toList = (texts.map (occurrences line)).sum :=
  List.count_flatMap

/-! ### Texts that are put together -/

theorem occurrences_stack (texts : List String) :
    occurrences line (stack texts) = (texts.map (occurrences line)).sum := by
  unfold occurrences
  rw [bareLines_stack]
  exact count_flatMap_bareLines texts

theorem occurrences_spaced (texts : List String) :
    occurrences line ("\n\n".intercalate texts) = (texts.map (occurrences line)).sum := by
  unfold occurrences
  rw [bareLines_spaced]
  exact count_flatMap_bareLines texts

theorem occurrences_assemble (fragments : List String) :
    occurrences line (assemble fragments none) = (fragments.map (occurrences line)).sum := by
  unfold occurrences
  rw [bareLines_assemble]
  exact count_flatMap_bareLines fragments

theorem occurrences_withImports (code : String) (imports : List String) :
    occurrences line (withImports code imports) =
      (imports.map (occurrences line)).sum + occurrences line code := by
  unfold occurrences
  rw [bareLines_withImports, List.count_append]
  exact congrArg (· + _) (count_flatMap_bareLines imports)

@[simp] theorem occurrences_trimBreaks (code : String) :
    occurrences line (trimBreaks code) = occurrences line code := by
  unfold occurrences
  rw [bareLines_trimBreaks]

@[simp] theorem occurrences_indent (code : String) (level : Nat) :
    occurrences line (indent code level) = occurrences line code := by
  unfold occurrences
  rw [bareLines_indent]

theorem occurrences_of_isBlank {code : String} (h : isBlank code = true) :
    occurrences line code = 0 := by
  unfold occurrences
  rw [bareLines_of_isBlank h]
  rfl

/-- Blank texts may be left out. -/
theorem occurrences_filter (texts : List String) :
    ((texts.filter (!isBlank ·)).map (occurrences line)).sum =
      (texts.map (occurrences line)).sum := by
  induction texts with
  | nil => rfl
  | cons text rest ih =>
    rw [List.map_cons, List.sum_cons]
    cases hblank : isBlank text with
    | true =>
      rw [List.filter_cons_of_neg (by rw [hblank]; decide), ih, occurrences_of_isBlank hblank,
        Nat.zero_add]
    | false => rw [List.filter_cons_of_pos (by rw [hblank]; rfl), List.map_cons, List.sum_cons, ih]

/-- Texts that a line does not stand in make one that it does not stand in either. -/
theorem occurrences_stack_eq_zero {texts : List String}
    (h : ∀ text ∈ texts, occurrences line text = 0) : occurrences line (stack texts) = 0 := by
  rw [occurrences_stack]
  exact List.sum_eq_zero_iff_forall_eq_nat.2 (List.forall_mem_map.2 h)

/-- The body of a block holds the lines of the code, or a statement that does nothing. -/
theorem occurrences_body {code : String} (hpass : line ≠ "pass")
    (h : occurrences line code = 0) (level : Nat) : occurrences line (body code level) = 0 := by
  have hstatement : occurrences line "pass" = 0 := by
    rw [occurrences_eq_zero_iff]
    intro hmem
    have hbare : bareLines "pass" = ["pass".toList] := by decide
    rw [hbare, List.mem_singleton] at hmem
    exact hpass (String.toList_inj.1 hmem)
  unfold body bodyChars
  rw [occurrences_indent]
  split
  · exact hstatement
  · exact (occurrences_trimBreaks code).trans h

/-! ### Single lines -/

/-- A single line in which there is a character that a line does not have is another line. -/
theorem occurrences_of_mem {text : String} (hbreak : '\n' ∉ text.toList) {c : Char}
    (hc : c ∈ text.toList) (hsolid : Text.isBlank c = false) (hnone : c ∉ line.toList) :
    occurrences line text = 0 := by
  rw [occurrences_eq_zero_iff]
  intro hmem
  have hline := eq_trim_of_mem_bareLines hbreak hmem
  exact hnone (hline ▸ mem_trim hc hsolid)

/-- A single line that begins in another way is another line. -/
theorem occurrences_of_head {text : String} (hbreak : '\n' ∉ text.toList) {c : Char}
    (hc : text.toList.head? = some c) (hsolid : Text.isBlank c = false)
    (hother : line.toList.head? ≠ some c) : occurrences line text = 0 := by
  rw [occurrences_eq_zero_iff]
  intro hmem
  have hline := eq_trim_of_mem_bareLines hbreak hmem
  obtain ⟨rest, hrest⟩ := List.head?_eq_some_iff.1 hc
  -- nothing is cut off in front, so the line begins with the same character
  have hprefix : Text.trim text.toList <+: text.toList := by
    unfold Text.trim Text.trimWhile
    rw [hrest, List.dropWhile_cons_of_neg (by rw [hsolid]; decide)]
    exact Text.dropEndWhile_isPrefix _ _
  have hkept : c ∈ line.toList := hline ▸ mem_trim (hrest ▸ List.mem_cons_self) hsolid
  obtain ⟨first, others, hfirst⟩ := List.exists_cons_of_ne_nil (List.ne_nil_of_mem hkept)
  rw [← hline, hfirst, hrest, List.cons_prefix_cons] at hprefix
  exact hother (by rw [hfirst, hprefix.1]; rfl)

/-! ### Texts inside of lines -/

/-- A line of a text with more in front of it is one of the text's own, or has at its beginning
    what is in front. -/
theorem mem_lines_append_left {front cs full : List Char} (hfront : '\n' ∉ front)
    (h : full ∈ lines (front ++ cs)) : full ∈ lines cs ∨ front <+: full := by
  by_cases hbreak : '\n' ∈ cs
  · obtain ⟨first, rest, rfl, hfirst⟩ := List.eq_append_cons_of_mem hbreak
    rw [← List.append_assoc, Text.lines_append_break, List.mem_append] at h
    rw [Text.lines_append_break, List.mem_append]
    rcases h with h | h
    · rw [lines_of_not_mem (by simp [hfront, hfirst]), List.mem_singleton] at h
      exact .inr ⟨first, h.symm⟩
    · exact .inl (.inr h)
  · rw [lines_of_not_mem (by simp [hfront, hbreak]), List.mem_singleton] at h
    exact .inr ⟨cs, h.symm⟩

/-- A line of a text with more behind it is one of the text's own, or has at its end what is
    behind. -/
theorem mem_lines_append_right {back cs full : List Char} (hback : '\n' ∉ back)
    (h : full ∈ lines (cs ++ back)) : full ∈ lines cs ∨ back <:+ full := by
  by_cases hbreak : '\n' ∈ cs
  · obtain ⟨rest, last, rfl, hlast⟩ := Text.exists_last_line hbreak
    rw [List.append_assoc, List.cons_append, Text.lines_append_break, List.mem_append] at h
    rw [Text.lines_append_break, List.mem_append]
    rcases h with h | h
    · exact .inl (.inl h)
    · rw [lines_of_not_mem (by simp [hback, hlast]), List.mem_singleton] at h
      exact .inr ⟨last, h.symm⟩
  · rw [lines_of_not_mem (by simp [hback, hbreak]), List.mem_singleton] at h
    exact .inr ⟨cs, h.symm⟩

/-- A line that does not stand in a text does not stand in it either when there is more on its first
    and on its last line, if what is there has characters that the line does not have. -/
theorem occurrences_around {front inner back code : String}
    (hcode : code = front ++ inner ++ back) (hinner : occurrences line inner = 0)
    (hfront : '\n' ∉ front.toList) (hback : '\n' ∉ back.toList) {b c : Char}
    (hb : b ∈ front.toList) (hbsolid : Text.isBlank b = false) (hbnone : b ∉ line.toList)
    (hc : c ∈ back.toList) (hcsolid : Text.isBlank c = false) (hcnone : c ∉ line.toList) :
    occurrences line code = 0 := by
  rw [occurrences_eq_zero_iff] at hinner ⊢
  rw [hcode]
  intro hmem
  obtain ⟨full, hfull, hsolid, htrim⟩ := mem_bareLines.1 hmem
  rw [String.toList_append, String.toList_append] at hfull
  rcases mem_lines_append_right hback hfull with hfull | hend
  · rcases mem_lines_append_left hfront hfull with hfull | hbegin
    · exact hinner (mem_bareLines.2 ⟨full, hfull, hsolid, htrim⟩)
    · exact hbnone (htrim ▸ mem_trim (hbegin.subset hb) hbsolid)
  · exact hcnone (htrim ▸ mem_trim (hend.subset hc) hcsolid)

end line

end LayerGraph.Fragment
