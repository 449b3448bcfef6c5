import LayerGraph.Text.Blank
import LayerGraph.Text.Lines

/-! # Trimming and lines

    How trimming acts on the lines of a text. Trimming the line breaks of a text removes whole empty
    lines at its two ends and nothing else (`lines_eq_around_trimBreaks`), and cutting at a line
    break in the middle splits the lines in two (`lines_append_break`).
-/

namespace LayerGraph.Text

/-! ### Ends -/

section ends
variable {p : Char → Bool} {cs : List Char}

theorem dropEndWhile_isPrefix (p : Char → Bool) (cs : List Char) : dropEndWhile p cs <+: cs := by
  obtain ⟨dropped, split, _⟩ := dropEndWhile_append_dropped p cs
  exact ⟨dropped, split.symm⟩

/-- A text whose last character stays is not cut at its end. -/
theorem dropEndWhile_of_getLast? (h : ∀ c, cs.getLast? = some c → p c = false) :
    dropEndWhile p cs = cs := by
  obtain ⟨dropped, split, all⟩ := dropEndWhile_append_dropped p cs
  cases hlast : dropped.getLast? with
  | none =>
    have hnil : dropped = [] := List.getLast?_eq_none_iff.1 hlast
    rw [hnil, List.append_nil] at split
    exact split.symm
  | some c =>
    have hp : p c = true := all c (List.mem_of_getLast? hlast)
    have hc : cs.getLast? = some c := by rw [split, List.getLast?_append, hlast]; rfl
    rw [h c hc] at hp
    exact absurd hp Bool.false_ne_true

theorem dropEndWhile_idem (p : Char → Bool) (cs : List Char) :
    dropEndWhile p (dropEndWhile p cs) = dropEndWhile p cs :=
  dropEndWhile_of_getLast? (getLast?_dropEndWhile p cs)

theorem mem_of_mem_dropEndWhile {c : Char} (h : c ∈ dropEndWhile p cs) : c ∈ cs :=
  (dropEndWhile_isPrefix p cs).subset h

/-- What is trimmed does not begin with a character that is cut off. -/
theorem dropWhile_trimWhile (p : Char → Bool) (cs : List Char) :
    (trimWhile p cs).dropWhile p = trimWhile p cs := by
  unfold trimWhile
  obtain ⟨rest, split⟩ := dropEndWhile_isPrefix p (cs.dropWhile p)
  cases hkept : dropEndWhile p (cs.dropWhile p) with
  | nil => rfl
  | cons c kept =>
    have hhead : (cs.dropWhile p).head? = some c := by rw [← split, hkept]; rfl
    have hp : p c = false := by
      have := List.head?_dropWhile_not p cs
      rw [hhead] at this
      simpa using this
    rw [List.dropWhile_cons_of_neg (by simp [hp])]

theorem trimWhile_idem (p : Char → Bool) (cs : List Char) :
    trimWhile p (trimWhile p cs) = trimWhile p cs := by
  have hfront := dropWhile_trimWhile p cs
  unfold trimWhile at hfront ⊢
  rw [hfront, dropEndWhile_idem]

/-- A text whose first and last characters stay is not trimmed. -/
theorem trimWhile_of_ends (hfirst : ∀ c, cs.head? = some c → p c = false)
    (hlast : ∀ c, cs.getLast? = some c → p c = false) : trimWhile p cs = cs := by
  cases cs with
  | nil => rfl
  | cons c rest =>
    unfold trimWhile
    rw [List.dropWhile_cons_of_neg (by simp [hfirst c rfl])]
    exact dropEndWhile_of_getLast? hlast

/-- A run at the end is cut off. -/
theorem dropEndWhile_append_of_all {after : List Char} (h : ∀ c ∈ after, p c = true) :
    dropEndWhile p (cs ++ after) = dropEndWhile p cs := by
  have hnone : dropEndWhile p after = [] := by
    induction after with
    | nil => rfl
    | cons c rest ih =>
      obtain ⟨hc, hrest⟩ := List.forall_mem_cons.1 h
      rw [dropEndWhile_cons, ih hrest, hc]
      rfl
  unfold dropEndWhile at hnone ⊢
  rw [List.foldr_append, hnone]

/-- A run in front of a text is trimmed. -/
theorem trimWhile_append_left {before : List Char} (h : ∀ c ∈ before, p c = true) :
    trimWhile p (before ++ cs) = trimWhile p cs := by
  unfold trimWhile
  rw [List.dropWhile_append_of_pos h]

/-- A run behind a text is trimmed. -/
theorem trimWhile_append_right {after : List Char} (h : ∀ c ∈ after, p c = true) :
    trimWhile p (cs ++ after) = trimWhile p cs := by
  unfold trimWhile
  rw [List.dropWhile_append]
  split
  · next hnone =>
    -- there is nothing but the runs
    have hrun : after.dropWhile p = [] := by
      simpa using @List.dropWhile_append_of_pos _ p after [] h
    rw [List.isEmpty_iff.1 hnone, hrun]
  · exact dropEndWhile_append_of_all h

/-- Trimming cuts a run off at each end. -/
theorem exists_trimWhile (p : Char → Bool) (cs : List Char) :
    ∃ before after, cs = before ++ trimWhile p cs ++ after ∧
      (∀ c ∈ before, p c = true) ∧ ∀ c ∈ after, p c = true := by
  obtain ⟨after, split, hafter⟩ := dropEndWhile_append_dropped p (cs.dropWhile p)
  refine ⟨cs.takeWhile p, after, ?_, ?_, hafter⟩
  · unfold trimWhile
    rw [List.append_assoc, ← split, List.takeWhile_append_dropWhile]
  · intro c hc
    exact List.all_eq_true.1 List.all_takeWhile c hc

/-- What has none of these characters does not reach into a run of them in front. -/
theorem isInfix_of_append {word before : List Char} (hword : ∀ c ∈ word, p c = false)
    (hbefore : ∀ c ∈ before, p c = true) (h : word <:+: before ++ cs) : word <:+: cs := by
  induction before with
  | nil => exact h
  | cons b before ih =>
    obtain ⟨hb, hrest⟩ := List.forall_mem_cons.1 hbefore
    rcases List.infix_cons_iff.1 h with hprefix | hlater
    · cases word with
      | nil => exact List.nil_infix
      | cons c word =>
        have hfirst := hword c List.mem_cons_self
        rw [(List.cons_prefix_cons.1 hprefix).1, hb] at hfirst
        exact absurd hfirst nofun
    · exact ih hrest hlater

/-- What has none of these characters stays when they are trimmed. -/
theorem isInfix_trimWhile {word : List Char} (hword : ∀ c ∈ word, p c = false)
    (h : word <:+: cs) : word <:+: trimWhile p cs := by
  obtain ⟨before, after, hsplit, hbefore, hafter⟩ := exists_trimWhile p cs
  rw [hsplit, List.append_assoc] at h
  have hinner := isInfix_of_append hword hbefore h
  rw [← List.reverse_infix, List.reverse_append] at hinner
  have hreverse : ∀ {b : Bool} {text : List Char}, (∀ c ∈ text, p c = b) →
      ∀ c ∈ text.reverse, p c = b := fun h c hc => h c (List.mem_reverse.1 hc)
  exact List.reverse_infix.1 (isInfix_of_append (hreverse hword) (hreverse hafter) hinner)

end ends

/-! ### Blank texts -/

theorem isBlankText_append (xs ys : List Char) :
    isBlankText (xs ++ ys) = (isBlankText xs && isBlankText ys) := by
  simp [isBlankText]

/-- Cutting blanks off does not make a text blank, and does not make a blank one solid. -/
theorem isBlankText_trimEnd (cs : List Char) : isBlankText (trimEnd cs) = isBlankText cs := by
  obtain ⟨dropped, split, all⟩ := dropEndWhile_append_dropped isBlank cs
  have hdropped : isBlankText dropped = true := List.all_eq_true.2 all
  show isBlankText (dropEndWhile isBlank cs) = isBlankText cs
  conv => rhs; rw [split, isBlankText_append, hdropped, Bool.and_true]

theorem isBlankText_trimBreaks (cs : List Char) : isBlankText (trimBreaks cs) = isBlankText cs := by
  obtain ⟨before, after, split, hbefore, hafter⟩ := exists_trimWhile (· == '\n') cs
  have hblank : ∀ run : List Char, (∀ c ∈ run, (c == '\n') = true) → isBlankText run = true := by
    intro run hrun
    refine List.all_eq_true.2 fun c hc => ?_
    rw [beq_iff_eq.1 (hrun c hc)]
    decide
  have hall := congrArg isBlankText split
  rw [isBlankText_append, isBlankText_append, hblank before hbefore, hblank after hafter,
    Bool.true_and, Bool.and_true] at hall
  exact hall.symm

/-! ### Lines -/

theorem join_eq_intercalate (separator : List Char) (texts : List (List Char)) :
    join separator texts = separator.intercalate texts := by
  induction texts with
  | nil => rfl
  | cons first rest ih =>
    cases rest with
    | nil => simp [join]
    | cons second others =>
      rw [join_cons_cons, ih, List.intercalate_cons_cons]

/-- A character that is neither in the texts nor in their separator is not in the joined text. -/
theorem not_mem_join {c : Char} {separator : List Char} {texts : List (List Char)}
    (hseparator : c ∉ separator) (htexts : ∀ text ∈ texts, c ∉ text) :
    c ∉ join separator texts := by
  induction texts with
  | nil => exact List.not_mem_nil
  | cons first rest ih =>
    obtain ⟨hfirst, hrest⟩ := List.forall_mem_cons.1 htexts
    cases rest with
    | nil => exact hfirst
    | cons second others =>
      rw [join_cons_cons, List.mem_append, List.mem_append]
      exact fun hmem => hmem.elim (fun h => h.elim hfirst hseparator) (ih hrest)

/-- A text is cut in one way at the first place of a character. -/
theorem append_cons_inj {c : Char} {xs ys r s : List Char} (hxs : c ∉ xs) (hys : c ∉ ys)
    (h : xs ++ c :: r = ys ++ c :: s) : xs = ys ∧ r = s := by
  have hpieces := congrArg (pieces c) h
  rw [pieces_append_cons hxs, pieces_append_cons hys] at hpieces
  obtain rfl := (List.cons.inj hpieces).1
  exact ⟨rfl, (List.cons.inj (List.append_cancel_left h)).2⟩

/-- A text does not come to two characters first. -/
theorem append_cons_ne {c d : Char} {xs ys : List Char} (hne : c ≠ d) (hxs : d ∉ xs)
    (hys : c ∉ ys) (r s : List Char) : xs ++ c :: r ≠ ys ++ d :: s := by
  intro h
  rcases List.append_eq_append_iff.1 h with ⟨more, rfl, hmore⟩ | ⟨more, rfl, hmore⟩
  · cases more with
    | nil => exact hne (List.cons.inj hmore).1
    | cons e more => exact hys (by simp [(List.cons.inj hmore).1])
  · cases more with
    | nil => exact hne (List.cons.inj hmore).1.symm
    | cons e more => exact hxs (by simp [(List.cons.inj hmore).1])

theorem lines_nil : lines [] = [[]] := rfl

theorem lines_cons_break (cs : List Char) : lines ('\n' :: cs) = [] :: lines cs := by
  unfold lines
  rw [pieces, cut_cons_self]

/-- A line break splits the lines of a text in two. -/
theorem lines_append_break (xs ys : List Char) :
    lines (xs ++ '\n' :: ys) = lines xs ++ lines ys := by
  induction xs with
  | nil => rw [List.nil_append, lines_cons_break, lines_nil, List.singleton_append]
  | cons c xs ih =>
    by_cases hc : c = '\n'
    · subst hc
      rw [List.cons_append, lines_cons_break, ih, lines_cons_break, List.cons_append]
    · unfold lines pieces at ih ⊢
      rw [List.cons_append, cut_cons_of_ne hc, cut_cons_of_ne hc]
      rw [List.cons_append, List.cons.injEq] at ih
      rw [ih.1, ih.2, List.cons_append]

/-- A text goes on behind its last line break. -/
theorem exists_last_line {text : List Char} (h : '\n' ∈ text) :
    ∃ front last, text = front ++ '\n' :: last ∧ '\n' ∉ last := by
  obtain ⟨last, front, hsplit, hlast⟩ := List.eq_append_cons_of_mem (List.mem_reverse.2 h)
  refine ⟨front.reverse, last.reverse, ?_, by rwa [List.mem_reverse]⟩
  rw [← List.reverse_reverse text, hsplit]
  simp

theorem lines_replicate_append (n : Nat) (cs : List Char) :
    lines (List.replicate n '\n' ++ cs) = List.replicate n [] ++ lines cs := by
  induction n with
  | zero => rfl
  | succ n ih =>
    rw [List.replicate_succ, List.cons_append, lines_cons_break, ih, List.replicate_succ,
      List.cons_append]

theorem lines_append_replicate (cs : List Char) (n : Nat) :
    lines (cs ++ List.replicate n '\n') = lines cs ++ List.replicate n [] := by
  induction n generalizing cs with
  | zero => simp
  | succ n ih =>
    rw [List.replicate_succ, lines_append_break, List.replicate_succ]
    have hrest := ih []
    rw [List.nil_append, lines_nil, List.singleton_append] at hrest
    rw [hrest]

/-- Putting lines together and taking them apart gives them back. -/
theorem lines_unlines {ls : List (List Char)} (nonempty : ls ≠ [])
    (h : ∀ line ∈ ls, '\n' ∉ line) : lines (unlines ls) = ls :=
  pieces_join nonempty h

theorem unlines_lines (cs : List Char) : unlines (lines cs) = cs := join_pieces '\n' cs

theorem lines_ne_nil (cs : List Char) : lines cs ≠ [] := List.cons_ne_nil _ _

theorem not_mem_of_mem_lines {cs line : List Char} (h : line ∈ lines cs) : '\n' ∉ line :=
  not_mem_of_mem_pieces h

/-- A character of a line is one of the text. -/
theorem mem_unlines_of_mem {ls : List (List Char)} {line : List Char} {c : Char}
    (hline : line ∈ ls) (hc : c ∈ line) : c ∈ unlines ls := by
  induction ls with
  | nil => simp at hline
  | cons first rest ih =>
    cases rest with
    | nil =>
      rw [List.mem_singleton] at hline
      subst hline
      exact hc
    | cons second others =>
      show c ∈ first ++ ['\n'] ++ unlines (second :: others)
      rcases List.mem_cons.1 hline with rfl | hrest
      · exact List.mem_append_left _ (List.mem_append_left _ hc)
      · exact List.mem_append_right _ (ih hrest)

theorem mem_of_mem_lines {cs line : List Char} {c : Char} (hline : line ∈ lines cs)
    (hc : c ∈ line) : c ∈ cs := by
  rw [← unlines_lines cs]
  exact mem_unlines_of_mem hline hc

/-- The lines of texts that are put together with line breaks are those of the texts. -/
theorem lines_unlines_flatMap {texts : List (List Char)} (nonempty : texts ≠ []) :
    lines (unlines texts) = texts.flatMap lines := by
  induction texts with
  | nil => exact absurd rfl nonempty
  | cons first rest ih =>
    cases rest with
    | nil => simp [unlines, join]
    | cons second others =>
      show lines (first ++ ['\n'] ++ unlines (second :: others)) = _
      rw [List.append_assoc, List.singleton_append, lines_append_break,
        ih (List.cons_ne_nil _ _)]
      exact List.flatMap_cons.symm

theorem isBlankText_unlines (ls : List (List Char)) :
    isBlankText (unlines ls) = ls.all isBlankText := by
  induction ls with
  | nil => rfl
  | cons first rest ih =>
    cases rest with
    | nil => exact (Bool.and_true _).symm
    | cons second others =>
      rw [unlines, join_cons_cons, isBlankText_append, isBlankText_append, List.all_cons]
      show (_ && true && isBlankText (unlines (second :: others))) = _
      rw [ih, Bool.and_true]

/-- A text is blank exactly if all its lines are. -/
theorem isBlankText_eq_all (cs : List Char) : isBlankText cs = (lines cs).all isBlankText := by
  rw [← isBlankText_unlines, unlines_lines]

/-- Trimming line breaks removes empty lines at the two ends. -/
theorem lines_eq_around_trimBreaks (cs : List Char) :
    ∃ before after, lines cs =
      List.replicate before [] ++ lines (trimBreaks cs) ++ List.replicate after [] := by
  obtain ⟨before, after, split, hbefore, hafter⟩ := exists_trimWhile (· == '\n') cs
  have breaks : ∀ run : List Char, (∀ c ∈ run, (c == '\n') = true) →
      run = List.replicate run.length '\n' := by
    intro run hrun
    exact List.eq_replicate_iff.2 ⟨rfl, fun c hc => by simpa using hrun c hc⟩
  refine ⟨before.length, after.length, ?_⟩
  show lines cs = List.replicate before.length [] ++ lines (trimWhile (· == '\n') cs) ++ _
  rw [← lines_replicate_append, ← lines_append_replicate, ← breaks before hbefore,
    ← breaks after hafter, ← split]

end LayerGraph.Text
