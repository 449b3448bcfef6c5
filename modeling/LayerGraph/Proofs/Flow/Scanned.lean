import LayerGraph.Proofs.Flow.Steps

/-! # Scanned text

    What it means that the rest of a line has certain tokens, one rule for each thing that can begin
    it. The scanner counts its steps; that it makes enough of them is shown once, in `scan_eq`, and
    every further statement about the tokens of a line is an induction on these rules.
-/

namespace LayerGraph.Flow

/-! ### The rules -/

/-- The tokens of the rest of a line, from a column on, and the state behind them. -/
inductive Scanned (line : Nat) :
    LexState → Nat → List Char → List Token → LexState → Prop where
  /-- Only blanks are left. -/
  | blank {st : LexState} {column : Nat} {blanks : List Char}
      (hblanks : ∀ b ∈ blanks, isGap b = true) : Scanned line st column blanks [] st
  /-- No lexeme begins behind the blanks. -/
  | stray {st final : LexState} {column : Nat} {c d : Char} {cs blanks ds : List Char}
      {tokens : List Token} (hblanks : ∀ b ∈ blanks, isGap b = true) (hd : isGap d = false)
      (hsplit : c :: cs = blanks ++ d :: ds) (hnext : Lexeme.next? (d :: ds) = none)
      (rest : Scanned line st (column + 1) cs tokens final) :
      Scanned line st column (c :: cs) (⟨.stray, [c], line, column⟩ :: tokens) final
  /-- A lexeme begins behind the blanks. -/
  | lexeme {st next final : LexState} {column length : Nat} {c : Char}
      {cs blanks behind : List Char} {lexeme : Lexeme} {token? : Option Token}
      {tokens : List Token} (hblanks : ∀ b ∈ blanks, isGap b = true) (hc : isGap c = false)
      (hnext : Lexeme.next? (c :: cs) = some (lexeme, length))
      (hstep : lexemeStep st line (column + blanks.length) lexeme ((c :: cs).take length)
        ((c :: cs).drop length) = (token?, next, behind))
      (rest : Scanned line next (column + (blanks ++ c :: cs).length - behind.length) behind
        tokens final) :
      Scanned line st column (blanks ++ c :: cs) (token?.toList ++ tokens) final

namespace Scanned
variable {line : Nat}

theorem takeWhile_isGap {blanks : List Char} (hblanks : ∀ b ∈ blanks, isGap b = true) {c : Char}
    (hc : isGap c = false) (cs : List Char) : (blanks ++ c :: cs).takeWhile isGap = blanks := by
  rw [List.takeWhile_append_of_pos hblanks, List.takeWhile_cons_of_neg (by simp [hc]),
    List.append_nil]

/-- A text is blank, or something else stands behind its blanks. -/
theorem exists_blanks (cs : List Char) :
    (∀ b ∈ cs, isGap b = true) ∨
      ∃ blanks c rest, cs = blanks ++ c :: rest ∧ (∀ b ∈ blanks, isGap b = true) ∧
        isGap c = false := by
  have hall := List.takeWhile_append_dropWhile (p := isGap) (l := cs)
  have hblanks : ∀ b ∈ cs.takeWhile isGap, isGap b = true := List.all_eq_true.1 List.all_takeWhile
  have hhead := List.head?_dropWhile_not isGap cs
  cases hrest : cs.dropWhile isGap with
  | nil =>
    rw [hrest, List.append_nil] at hall
    exact Or.inl (hall ▸ hblanks)
  | cons c rest =>
    rw [hrest] at hall hhead
    exact Or.inr ⟨_, c, rest, hall.symm, hblanks, by simpa using hhead⟩

/-- A lexeme has a character at least. -/
theorem length_behind {st next : LexState} {column length : Nat} {c : Char}
    {cs behind : List Char} {lexeme : Lexeme} {token? : Option Token}
    (hnext : Lexeme.next? (c :: cs) = some (lexeme, length))
    (hstep : lexemeStep st line column lexeme ((c :: cs).take length)
      ((c :: cs).drop length) = (token?, next, behind)) :
    behind.length < (c :: cs).length := by
  obtain ⟨taken, htaken⟩ := exists_taken hstep
  have hpos := Lexeme.pos_of_next? _ hnext
  have hlength := congrArg List.length htaken
  simp only [List.length_append, List.length_cons, List.length_drop] at hlength hpos ⊢
  omega

/-- Every text has tokens. -/
theorem exists_tokens (st : LexState) (column : Nat) (cs : List Char) :
    ∃ tokens final, Scanned line st column cs tokens final := by
  rcases exists_blanks cs with hblanks | ⟨blanks, c, rest, hcs, hblanks, hc⟩
  · exact ⟨[], st, .blank hblanks⟩
  rw [hcs]
  cases hnext : Lexeme.next? (c :: rest) with
  | none =>
    -- a stray token is one character, which may be a blank in front of it
    cases hsplit : blanks ++ c :: rest with
    | nil => exact absurd hsplit (by simp)
    | cons d ds =>
      obtain ⟨tokens, final, h⟩ := exists_tokens st (column + 1) ds
      exact ⟨_, final, .stray hblanks hc hsplit.symm hnext h⟩
  | some found =>
    obtain ⟨lexeme, length⟩ := found
    obtain ⟨⟨token?, next, behind⟩, hstep⟩ :
        ∃ step, lexemeStep st line (column + blanks.length) lexeme ((c :: rest).take length)
          ((c :: rest).drop length) = step := ⟨_, rfl⟩
    have hbehind := length_behind hnext hstep
    obtain ⟨tokens, final, h⟩ := exists_tokens next
      (column + (blanks ++ c :: rest).length - behind.length) behind
    exact ⟨_, final, .lexeme hblanks hc hnext hstep h⟩
termination_by cs.length
decreasing_by
  · rw [hcs, hsplit, List.length_cons]
    exact Nat.lt_succ_self _
  · rw [hcs, List.length_append]
    omega

/-- The tokens of a text are those of its scan, if that may make a step for each character. -/
theorem scan_eq {st final : LexState} {column : Nat} {cs : List Char} {tokens : List Token}
    (h : Scanned line st column cs tokens final) {fuel : Nat} (hfuel : cs.length ≤ fuel) :
    scan fuel st line column cs = (tokens, final) := by
  induction h generalizing fuel with
  | @blank st column blanks hblanks =>
    cases fuel with
    | zero => rfl
    | succ fuel =>
      cases blanks with
      | nil => rfl
      | cons b bs =>
        have hgap : (b :: bs).takeWhile isGap = b :: bs := by
          rw [← List.append_nil (b :: bs), List.takeWhile_append_of_pos hblanks,
            List.takeWhile_nil]
        rw [scan]
        simp only [hgap, List.drop_length]
  | @stray st final column c d cs blanks ds tokens hblanks hd hsplit hnext rest ih =>
    cases fuel with
    | zero => exact absurd hfuel (Nat.not_succ_le_zero _)
    | succ fuel =>
      have hgap : (c :: cs).takeWhile isGap = blanks := hsplit ▸ takeWhile_isGap hblanks hd ds
      have hafter : (c :: cs).drop blanks.length = d :: ds := by rw [hsplit, List.drop_left]
      rw [scan]
      simp only [hgap, hafter, hnext, ih (Nat.le_of_succ_le_succ hfuel)]
  | @lexeme st next final column length c cs blanks behind lexeme token? tokens hblanks hc hnext
      hstep rest ih =>
    have hgap := takeWhile_isGap hblanks hc cs
    have hafter : (blanks ++ c :: cs).drop blanks.length = c :: cs := List.drop_left
    -- the text behind the lexeme is shorter, so a step less suffices for it
    have hbehind := length_behind hnext hstep
    rw [List.length_append] at hfuel
    cases fuel with
    | zero => omega
    | succ fuel =>
      have hrest : scan fuel next line _ behind = (tokens, final) := ih (by omega)
      cases htext : blanks ++ c :: cs with
      | nil => simp at htext
      | cons x xs =>
        rw [htext] at hgap hafter hrest
        rw [scan]
        simp only [hgap, hafter, hnext, hstep, hrest]

/-- The tokens of a line stand on it, each behind the one before. -/
theorem mem_tokens {st final : LexState} {column : Nat} {cs : List Char} {tokens : List Token}
    (h : Scanned line st column cs tokens final) {t : Token} (ht : t ∈ tokens) :
    t.line = line ∧ column ≤ t.column := by
  induction h with
  | blank hblanks => exact absurd ht List.not_mem_nil
  | stray hblanks hd hsplit hnext rest ih =>
    rcases List.mem_cons.1 ht with rfl | ht
    · exact ⟨rfl, Nat.le_refl _⟩
    · exact ⟨(ih ht).1, Nat.le_of_succ_le (ih ht).2⟩
  | @lexeme st next final column length c cs blanks behind lexeme token? tokens hblanks hc hnext
      hstep rest ih =>
    rcases List.mem_append.1 ht with ht | ht
    · rw [Option.mem_toList] at ht
      obtain ⟨hline, hcolumn, -⟩ := of_lexemeStep (by rw [hstep]; exact ht)
      exact ⟨hline, by omega⟩
    -- what is left is shorter, so later tokens stand further right
    · have hle := length_behind hnext hstep
      have hcolumn := (ih ht).2
      rw [List.length_append] at hcolumn
      exact ⟨(ih ht).1, by omega⟩

theorem pairwise_column {st final : LexState} {column : Nat} {cs : List Char}
    {tokens : List Token} (h : Scanned line st column cs tokens final) :
    tokens.Pairwise fun t u => t.column < u.column := by
  induction h with
  | blank hblanks => exact .nil
  | stray hblanks hd hsplit hnext rest ih =>
    exact .cons (fun u hu => (rest.mem_tokens hu).2) ih
  | @lexeme st next final column length c cs blanks behind lexeme token? tokens hblanks hc hnext
      hstep rest ih =>
    cases token? with
    | none => exact ih
    | some t =>
      refine .cons (fun u hu => ?_) ih
      have hcolumn := (of_lexemeStep (by rw [hstep])).2.1
      have hle := length_behind hnext hstep
      have hbehind := (rest.mem_tokens hu).2
      rw [List.length_append] at hbehind
      rw [hcolumn]
      omega

/-- A name stands at a character that can begin one. -/
theorem exists_isNameStart {st final : LexState} {column : Nat} {cs : List Char}
    {tokens : List Token} (h : Scanned line st column cs tokens final) {t : Token}
    (ht : t ∈ tokens) (hname : t.kind = .name) :
    ∃ c, cs[t.column - column]? = some c ∧ isNameStart c = true := by
  induction h with
  | blank hblanks => exact absurd ht List.not_mem_nil
  | @stray st final column c d cs blanks ds tokens hblanks hd hsplit hnext rest ih =>
    rcases List.mem_cons.1 ht with rfl | ht
    · exact absurd hname nofun
    · obtain ⟨e, hat, he⟩ := ih ht
      have hle := (rest.mem_tokens ht).2
      have hcolumn : t.column - column = t.column - (column + 1) + 1 := by omega
      rw [hcolumn, List.getElem?_cons_succ]
      exact ⟨e, hat, he⟩
  | @lexeme st next final column length c cs blanks behind lexeme token? tokens hblanks hc hnext
      hstep rest ih =>
    rcases List.mem_append.1 ht with ht | ht
    · rw [Option.mem_toList] at ht
      obtain ⟨-, hcolumn, hword⟩ := of_lexemeStep ((congrArg Prod.fst hstep).trans ht)
      obtain ⟨rfl, -, hkind⟩ := hword hname
      refine ⟨c, ?_, isNameStart_of_next? hnext hkind⟩
      rw [hcolumn, Nat.add_sub_cancel_left, List.getElem?_append_right (Nat.le_refl _),
        Nat.sub_self, List.getElem?_cons_zero]
    -- what is left is the end of the text, so its places are places of the text
    · obtain ⟨d, hat, hd⟩ := ih ht
      have hle := (rest.mem_tokens ht).2
      obtain ⟨front, hfront⟩ : behind <:+ blanks ++ c :: cs := by
        obtain ⟨taken, htaken⟩ := exists_taken hstep
        have hbehind : behind <:+ (c :: cs).drop length := ⟨taken, htaken.symm⟩
        exact (hbehind.trans (List.drop_suffix _ _)).trans (List.suffix_append _ _)
      have hcolumn : t.column - (column + (front ++ behind).length - behind.length) =
          t.column - column - front.length := by
        rw [List.length_append]
        omega
      rw [← hfront, List.length_append] at hle
      rw [← hfront, hcolumn] at hat
      rw [← hfront, List.getElem?_append_right (by omega), hat]
      exact ⟨d, rfl, hd⟩

end Scanned

end LayerGraph.Flow
