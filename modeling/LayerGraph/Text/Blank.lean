import LayerGraph.Text.CodePoints

/-! # Blanks

    White space and the ways to cut it off. A line break is a blank too; the functions that cut
    only line breaks take the class as an argument.
-/

namespace LayerGraph.Text

/-- The characters of white space: spaces of every width, tabs, line breaks of every kind and the
    four information separators. -/
def blanks : CodePoints :=
  [(0x9, 0xD), (0x1C, 0x20), (0x85, 0x85), (0xA0, 0xA0), (0x1680, 0x1680), (0x2000, 0x200A),
   (0x2028, 0x2029), (0x202F, 0x202F), (0x205F, 0x205F), (0x3000, 0x3000)]

/-- Whether a character is white space. -/
def isBlank (c : Char) : Bool := blanks.has c

/-- The characters with the property White_Space: the blanks but the information separators. -/
def isSpace (c : Char) : Bool :=
  isBlank c && !(decide (0x1C ≤ c.toNat) && decide (c.toNat ≤ 0x1F))

/-- Whether a text holds nothing but blanks. -/
def isBlankText (cs : List Char) : Bool := cs.all isBlank

/-- Removes the longest run of such characters from the end. -/
def dropEndWhile (p : Char → Bool) (cs : List Char) : List Char :=
  cs.foldr (fun c kept => if kept.isEmpty && p c then [] else c :: kept) []

theorem dropEndWhile_nil (p : Char → Bool) : dropEndWhile p [] = [] := rfl

theorem dropEndWhile_cons (p : Char → Bool) (c : Char) (cs : List Char) :
    dropEndWhile p (c :: cs) =
      if (dropEndWhile p cs).isEmpty && p c then [] else c :: dropEndWhile p cs := rfl

/-- What is cut off is a run of such characters. -/
theorem dropEndWhile_append_dropped (p : Char → Bool) (cs : List Char) :
    ∃ dropped, cs = dropEndWhile p cs ++ dropped ∧ ∀ c ∈ dropped, p c = true := by
  induction cs with
  | nil => exact ⟨[], rfl, by simp⟩
  | cons c cs ih =>
    obtain ⟨dropped, split, all⟩ := ih
    rw [dropEndWhile_cons]
    by_cases h : ((dropEndWhile p cs).isEmpty && p c) = true
    · rw [if_pos h]
      rw [Bool.and_eq_true, List.isEmpty_iff] at h
      rw [h.1, List.nil_append] at split
      refine ⟨c :: dropped, by rw [List.nil_append, split], ?_⟩
      intro d found
      cases List.mem_cons.1 found with
      | inl same => rw [same]; exact h.2
      | inr later => exact all d later
    · rw [if_neg h]
      exact ⟨dropped, by rw [List.cons_append, ← split], all⟩

/-- What is left does not end in such a character. -/
theorem getLast?_dropEndWhile (p : Char → Bool) (cs : List Char) (c : Char)
    (h : (dropEndWhile p cs).getLast? = some c) : p c = false := by
  induction cs with
  | nil => simp [dropEndWhile_nil] at h
  | cons d cs ih =>
    rw [dropEndWhile_cons] at h
    by_cases hd : ((dropEndWhile p cs).isEmpty && p d) = true
    · rw [if_pos hd] at h
      simp at h
    · rw [if_neg hd] at h
      cases left : dropEndWhile p cs with
      | nil =>
        rw [left] at h hd
        have same : d = c := by simpa using h
        rw [← same]
        simpa using hd
      | cons e es =>
        rw [left, List.getLast?_cons_cons] at h
        rw [left] at ih
        exact ih h

/-- Removes such characters from both ends. -/
def trimWhile (p : Char → Bool) (cs : List Char) : List Char :=
  dropEndWhile p (cs.dropWhile p)

/-- Removes blanks from both ends. -/
def trim (cs : List Char) : List Char := trimWhile isBlank cs

/-- Removes blanks from the end. -/
def trimEnd (cs : List Char) : List Char := dropEndWhile isBlank cs

/-- Removes line breaks from both ends. -/
def trimBreaks (cs : List Char) : List Char := trimWhile (· == '\n') cs

end LayerGraph.Text
