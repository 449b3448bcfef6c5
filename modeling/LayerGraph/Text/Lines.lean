/-! # Pieces and lines

    A text is cut at a separator into pieces and joined again. A text has one piece more than it
    has separators, so the empty text has one empty line. The main statements say that the two are
    inverse to each other: `join_pieces` for every text, `pieces_join` for pieces without
    separators.
-/

namespace LayerGraph.Text

/-- The first piece of a text, and the pieces after it. -/
def cut (separator : Char) (cs : List Char) : List Char × List (List Char) :=
  cs.foldr (fun c rest => if c = separator then ([], rest.1 :: rest.2) else (c :: rest.1, rest.2))
    ([], [])

/-- The pieces of a text between its separators. -/
def pieces (separator : Char) (cs : List Char) : List (List Char) :=
  (cut separator cs).1 :: (cut separator cs).2

/-- The lines of a text. -/
def lines (cs : List Char) : List (List Char) := pieces '\n' cs

/-- The texts in one, with the separator between two neighbours. -/
def join (separator : List Char) : List (List Char) → List Char
  | [] => []
  | [last] => last
  | first :: second :: rest => first ++ separator ++ join separator (second :: rest)

/-- Lines as one text. -/
def unlines (ls : List (List Char)) : List Char := join ['\n'] ls

/-! ### Cutting and joining -/

theorem cut_cons_self (separator : Char) (cs : List Char) :
    cut separator (separator :: cs) = ([], pieces separator cs) := by
  simp [cut, pieces]

theorem cut_cons_of_ne {separator c : Char} (h : c ≠ separator) (cs : List Char) :
    cut separator (c :: cs) = (c :: (cut separator cs).1, (cut separator cs).2) := by
  simp [cut, h]

theorem pieces_nil (separator : Char) : pieces separator [] = [[]] := rfl

theorem join_cons_cons (separator first second : List Char) (rest : List (List Char)) :
    join separator (first :: second :: rest) =
      first ++ separator ++ join separator (second :: rest) := rfl

/-- Adding a character to the first of several texts adds it to all of them. -/
theorem join_cons_head (separator : List Char) (c : Char) (first : List Char)
    (rest : List (List Char)) :
    join separator ((c :: first) :: rest) = c :: join separator (first :: rest) := by
  cases rest <;> rfl

/-- Cutting a text at a separator loses nothing. -/
theorem join_pieces (separator : Char) (cs : List Char) :
    join [separator] (pieces separator cs) = cs := by
  induction cs with
  | nil => rfl
  | cons c cs ih =>
    by_cases h : c = separator
    · subst h
      rw [pieces, cut_cons_self]
      show join [c] ([] :: (cut c cs).1 :: (cut c cs).2) = c :: cs
      rw [join_cons_cons]
      show c :: join [c] (pieces c cs) = c :: cs
      rw [ih]
    · rw [pieces, cut_cons_of_ne h]
      show join [separator] ((c :: (cut separator cs).1) :: (cut separator cs).2) = c :: cs
      rw [join_cons_head]
      exact congrArg (c :: ·) ih

/-- No piece holds the separator. -/
theorem not_mem_of_mem_pieces {separator : Char} {cs piece : List Char}
    (h : piece ∈ pieces separator cs) : separator ∉ piece := by
  induction cs generalizing piece with
  | nil =>
    rw [pieces_nil, List.mem_singleton] at h
    simp [h]
  | cons c cs ih =>
    by_cases hc : c = separator
    · subst hc
      rw [pieces, cut_cons_self] at h
      cases List.mem_cons.1 h with
      | inl empty => simp [empty]
      | inr later => exact ih later
    · rw [pieces, cut_cons_of_ne hc] at h
      cases List.mem_cons.1 h with
      | inl first =>
        have rest : separator ∉ (cut separator cs).1 := ih List.mem_cons_self
        rw [first, List.mem_cons]
        exact fun found => found.elim (fun same => hc same.symm) rest
      | inr later => exact ih (List.mem_cons_of_mem _ later)

theorem cut_of_not_mem {separator : Char} {cs : List Char} (h : separator ∉ cs) :
    cut separator cs = (cs, []) := by
  induction cs with
  | nil => rfl
  | cons c cs ih =>
    rw [List.mem_cons, not_or] at h
    rw [cut_cons_of_ne (fun same => h.1 same.symm), ih h.2]

theorem pieces_append_cons {separator : Char} {cs : List Char} (h : separator ∉ cs)
    (rest : List Char) :
    pieces separator (cs ++ separator :: rest) = cs :: pieces separator rest := by
  induction cs with
  | nil => rw [List.nil_append, pieces, cut_cons_self]
  | cons c cs ih =>
    rw [List.mem_cons, not_or] at h
    rw [List.cons_append, pieces, cut_cons_of_ne (fun same => h.1 same.symm)]
    have tail := ih h.2
    rw [pieces, List.cons.injEq] at tail
    rw [tail.1, tail.2]

/-- Joining texts without separators inside and cutting again gives them back. -/
theorem pieces_join {separator : Char} {texts : List (List Char)} (nonempty : texts ≠ [])
    (h : ∀ text ∈ texts, separator ∉ text) : pieces separator (join [separator] texts) = texts := by
  induction texts with
  | nil => exact absurd rfl nonempty
  | cons first rest ih =>
    have here : separator ∉ first := h first List.mem_cons_self
    cases rest with
    | nil =>
      show pieces separator first = [first]
      rw [pieces, cut_of_not_mem here]
    | cons second others =>
      rw [join_cons_cons, List.append_assoc]
      show pieces separator (first ++ separator :: join [separator] (second :: others)) = _
      rw [pieces_append_cons here, ih (List.cons_ne_nil _ _)]
      exact fun text found => h text (List.mem_cons_of_mem _ found)

/-! ### Line ends -/

/-- A text in which every line ends with a line feed: carriage returns, alone or before a line
    feed, are line ends too. -/
def unifyBreaks : List Char → List Char
  | [] => []
  | '\r' :: '\n' :: cs => '\n' :: unifyBreaks cs
  | '\r' :: cs => '\n' :: unifyBreaks cs
  | c :: cs => c :: unifyBreaks cs

end LayerGraph.Text
