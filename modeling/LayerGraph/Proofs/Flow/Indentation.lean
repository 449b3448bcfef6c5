import LayerGraph.Proofs.Flow.Padding

/-! # Indented lines can be read

    Statements that can be read can be read with spaces in front of every line, if the spaces reach
    a tab stop: every indentation is deeper by the same number of columns, so that the reader enters
    and leaves the same blocks (`exists_tokens_body`). The first statement must begin at the
    first column, or a later one would return to no earlier column, and a form feed must not stand
    in the lines, since behind it columns are counted anew.
-/

namespace LayerGraph.Flow

open Fragment (indentLine indentWidth)
open Text (lines isBlankText)

/-! ### Columns -/

section columns
variable {pad : Nat}

/-- The column that the next blank reaches from a column. -/
def nextColumn (column : Nat) (c : Char) : Nat :=
  if c = ' ' then column + 1 else if c = '\t' then (column / 8 + 1) * 8 else 0

theorem foldl_nextColumn_add (hpad : 8 ∣ pad) {blanks : List Char}
    (hblanks : ∀ b ∈ blanks, isGap b = true) (hfeed : '\x0c' ∉ blanks) (column : Nat) :
    blanks.foldl nextColumn (column + pad) = blanks.foldl nextColumn column + pad := by
  induction blanks generalizing column with
  | nil => rfl
  | cons b blanks ih =>
    obtain ⟨hb, hblanks⟩ := List.forall_mem_cons.1 hblanks
    rw [List.mem_cons, not_or] at hfeed
    rw [List.foldl_cons, List.foldl_cons, ← ih hblanks hfeed.2]
    apply congrArg (blanks.foldl nextColumn)
    rw [isGap, Bool.or_eq_true, Bool.or_eq_true, beq_iff_eq, beq_iff_eq, beq_iff_eq] at hb
    rcases hb with (rfl | rfl) | rfl
    · show column + pad + 1 = column + 1 + pad
      omega
    · show ((column + pad) / 8 + 1) * 8 = (column / 8 + 1) * 8 + pad
      omega
    · exact absurd rfl hfeed.1

theorem foldl_nextColumn_spaces (k column : Nat) :
    (List.replicate k ' ').foldl nextColumn column = column + k := by
  induction k generalizing column with
  | zero => rfl
  | succ k ih =>
    rw [List.replicate_succ, List.foldl_cons, ih]
    show column + 1 + k = column + (k + 1)
    omega

/-- Spaces in front of blanks move the column that they reach. -/
theorem indentColumn_spaces (hpad : 8 ∣ pad) {blanks : List Char}
    (hblanks : ∀ b ∈ blanks, isGap b = true) (hfeed : '\x0c' ∉ blanks) :
    indentColumn (List.replicate pad ' ' ++ blanks) = indentColumn blanks + pad := by
  show (List.replicate pad ' ' ++ blanks).foldl nextColumn 0 = blanks.foldl nextColumn 0 + pad
  rw [List.foldl_append, foldl_nextColumn_spaces, foldl_nextColumn_add hpad hblanks hfeed]

/-! ### Indentations -/

/-- Indentations that are deeper than others by some columns, inside one of these columns. -/
def deeper (pad : Nat) (indents : List Nat) : List Nat := indents.map (· + pad) ++ [pad]

theorem head?_deeper (indents : List Nat) :
    (deeper pad indents).head?.getD 0 = indents.head?.getD 0 + pad := by
  cases indents with
  | nil => exact (Nat.zero_add pad).symm
  | cons column outer => rfl

/-- Deeper indentations are left together with those that they stand for. -/
theorem leave_deeper {target left : Nat} {indents outer : List Nat}
    (h : leave target indents = some (left, outer)) :
    leave (target + pad) (deeper pad indents) = some (left, deeper pad outer) := by
  induction indents generalizing left with
  | nil =>
    rw [leave] at h
    split at h
    · next hzero =>
      obtain ⟨rfl, rfl⟩ := Prod.mk.inj (Option.some.inj h)
      simp [deeper, leave, hzero]
    · exact absurd h nofun
  | cons column others ih =>
    rw [leave] at h
    show leave (target + pad) ((column + pad) :: deeper pad others) = _
    rw [leave]
    split at h
    · next hlt =>
      obtain ⟨⟨n, ns⟩, hothers, heq⟩ := Option.map_eq_some_iff.1 h
      obtain ⟨rfl, rfl⟩ := Prod.mk.inj heq
      rw [if_pos (Nat.add_lt_add_right hlt pad), ih hothers]
      rfl
    · next hlt =>
      rw [if_neg (by omega)]
      split at h
      · next heq =>
        obtain ⟨rfl, rfl⟩ := Prod.mk.inj (Option.some.inj h)
        rw [if_pos (by rw [heq])]
        rfl
      · exact absurd h nofun

/-- A statement enters and leaves the same blocks when every indentation is deeper. -/
theorem indentStep_deeper {st st' next : LexState} (h : st'.indents = deeper pad st.indents)
    {line : Nat} {blanks blanks' : List Char} {layout : List Token}
    (hcolumn : indentColumn blanks' = indentColumn blanks + pad)
    (hindent : indentStep st line blanks = .ok (layout, next)) (line' : Nat) :
    ∃ layout' next', indentStep st' line' blanks' = .ok (layout', next') ∧
      next'.indents = deeper pad next.indents := by
  have hinner : st'.column = st.column + pad := by
    rw [LexState.column, h, head?_deeper, LexState.column]
  unfold indentStep at hindent ⊢
  simp only at hindent ⊢
  rw [hinner, hcolumn]
  split at hindent
  · next hlt =>
    obtain ⟨-, rfl⟩ := Prod.mk.inj (Except.ok.inj hindent)
    rw [if_pos (Nat.add_lt_add_right hlt pad)]
    refine ⟨_, _, rfl, ?_⟩
    show _ :: st'.indents = _
    rw [h]
    rfl
  · next hlt =>
    rw [if_neg (by omega)]
    split at hindent
    · next left outer hleave =>
      obtain ⟨-, rfl⟩ := Prod.mk.inj (Except.ok.inj hindent)
      rw [h, leave_deeper hleave]
      exact ⟨_, _, rfl, rfl⟩
    · exact absurd hindent nofun

/-- The first statement begins at the first column, unless a token tells that it does not; indented
    it is inside the column that its spaces reach. -/
theorem indentStep_start (hpos : 0 < pad) {next : LexState} {line : Nat}
    {blanks blanks' : List Char} {layout : List Token}
    (hcolumn : indentColumn blanks' = indentColumn blanks + pad)
    (hindent : indentStep .start line blanks = .ok (layout, next))
    (hflush : layout.head?.map (·.kind) ≠ some .indent) (line' : Nat) :
    ∃ layout' next', indentStep .start line' blanks' = .ok (layout', next') ∧
      next'.indents = deeper pad next.indents := by
  unfold indentStep at hindent ⊢
  simp only at hindent ⊢
  rw [hcolumn]
  split at hindent
  · obtain ⟨rfl, -⟩ := Prod.mk.inj (Except.ok.inj hindent)
    exact absurd rfl hflush
  · next hlt =>
    have hzero : indentColumn blanks = 0 := Nat.eq_zero_of_not_pos hlt
    rw [hzero] at hindent ⊢
    obtain ⟨rfl, rfl⟩ := Prod.mk.inj (Except.ok.inj hindent)
    have hstart : LexState.start.column < 0 + pad := by rwa [Nat.zero_add]
    rw [if_pos hstart]
    exact ⟨_, _, rfl, by rw [Nat.zero_add]; rfl⟩

end columns

/-! ### Inside a line -/

theorem indents_lexemeStep (st : LexState) (line column : Nat) (lexeme : Lexeme)
    (text rest : List Char) :
    (lexemeStep st line column lexeme text rest).2.1.indents = st.indents := by
  unfold lexemeStep LexState.afterOperator
  cases lexeme <;> dsimp only <;> repeat' split
  all_goals rfl

/-- Only the beginning of a statement enters and leaves blocks. -/
theorem indents_scan (fuel : Nat) (st : LexState) (line column : Nat) (cs : List Char) :
    (scan fuel st line column cs).2.indents = st.indents := by
  induction fuel generalizing st column cs with
  | zero => rfl
  | succ fuel ih =>
    cases cs with
    | nil => rfl
    | cons c cs =>
      rw [scan]
      dsimp only
      split
      · rfl
      · exact ih _ _ _
      · rw [ih, indents_lexemeStep]

theorem indents_continueString (st : LexState) (o : OpenString) (line : Nat) (text : List Char) :
    (continueString st o line text).2.indents = st.indents := by
  unfold continueString
  split
  · exact indents_scan _ _ _ _ _
  · split <;> rfl

/-! ### Lines -/

/-- What is asked of a line that is indented: if it is blank it is empty, and no form feed stands in
    it. -/
structure IsPlain (text : List Char) : Prop where
  blank : isBlankText text = true → text = []
  feed : '\x0c' ∉ text

section lines
variable {level line : Nat} {st st' next : LexState} {text : List Char} {tokens : List Token}

theorem isEmptyLine_indented (level : Nat) (text : List Char) :
    isEmptyLine ((indentLine level text ++ ['\n']).dropWhile isGap) =
      isEmptyLine ((text ++ ['\n']).dropWhile isGap) := by
  obtain ⟨k, hk⟩ := Fragment.exists_indentLine_eq level text
  rw [hk, List.append_assoc, List.dropWhile_append_of_pos isGap_of_mem_replicate]

/-- An indented statement begins with the blanks in front of it, behind the spaces. -/
theorem indentColumn_indented (hpad : 8 ∣ indentWidth * level) (htext : IsPlain text)
    (hstatement : isEmptyLine ((text ++ ['\n']).dropWhile isGap) = false) :
    indentColumn ((indentLine level text ++ ['\n']).takeWhile isGap) =
      indentColumn ((text ++ ['\n']).takeWhile isGap) + indentWidth * level := by
  have hsolid : isBlankText text = false := by
    rw [← Bool.not_eq_true]
    intro hblank
    rw [htext.blank hblank] at hstatement
    exact absurd hstatement (by decide)
  have hblanks : ∀ b ∈ (text ++ ['\n']).takeWhile isGap, isGap b = true :=
    List.all_eq_true.1 List.all_takeWhile
  rw [Fragment.indentLine_of_solid level hsolid, List.append_assoc,
    List.takeWhile_append_of_pos isGap_of_mem_replicate]
  refine indentColumn_spaces hpad hblanks fun hmem => ?_
  have hfeed := (List.takeWhile_prefix isGap).subset hmem
  exact htext.feed ((List.mem_append.1 hfeed).resolve_right (by decide))

/-- A line that can be read can be read with more spaces in front. -/
theorem exists_lexLine (hpad : 8 ∣ indentWidth * level) (htext : IsPlain text)
    (h : st.IsPadded level st') (hdeeper : st'.indents = deeper (indentWidth * level) st.indents)
    (hline : lexLine st line (text ++ ['\n']) = .ok (tokens, next)) (line' : Nat) :
    ∃ tokens' next', lexLine st' line' (indentLine level text ++ ['\n']) = .ok (tokens', next') ∧
      next'.indents = deeper (indentWidth * level) next.indents := by
  rcases h.open? with ⟨hopen, hopen'⟩ | ⟨o, o', hopen, hopen', -⟩
  · rw [lexLine_of_none hopen] at hline
    rw [lexLine_of_none hopen']
    have hbegins : (st'.brackets = 0 ∧ !st'.joined) ↔ (st.brackets = 0 ∧ !st.joined) := by
      rw [h.brackets, h.joined]
    split at hline
    · next hstart =>
      rw [if_pos (hbegins.2 hstart)]
      have hsame := isEmptyLine_indented level text
      rcases statementLine_cases hline with
        ⟨hempty, -, rfl⟩ | ⟨hstatement, layout, inner, hindent, -, rfl⟩
      · rw [statementLine_of_isEmptyLine (hsame.trans hempty)]
        exact ⟨_, _, rfl, hdeeper⟩
      · have hcolumn := indentColumn_indented hpad htext hstatement
        obtain ⟨layout', inner', hindent', hinner⟩ :=
          indentStep_deeper hdeeper hcolumn hindent line'
        rw [statementLine_of_indentStep (hsame.trans hstatement) hindent']
        exact ⟨_, _, rfl, by rw [indents_scan, indents_scan, hinner]⟩
    · next hstart =>
      -- inside brackets and behind a backslash no indentation is read
      rw [if_neg (mt hbegins.1 hstart)]
      obtain ⟨-, rfl⟩ := Prod.mk.inj (Except.ok.inj hline)
      exact ⟨_, _, rfl, by rw [indents_scan, indents_scan, hdeeper]⟩
  · rw [lexLine_of_some hopen] at hline
    rw [lexLine_of_some hopen']
    have hnext : (continueString st o line (text ++ ['\n'])).2 = next :=
      congrArg Prod.snd (Except.ok.inj hline)
    refine ⟨_, (continueString st' o' line' _).2, rfl, ?_⟩
    rw [indents_continueString, hdeeper, ← hnext, indents_continueString]

end lines

/-! ### Texts -/

/-- The kind of the first token of the first statement. In front of it stand comments and line
    breaks. -/
def firstKind? (ts : List Token) : Option TokenKind :=
  (ts.map (·.kind)).find? fun kind => kind != .comment && kind != .lineBreak

/-- Whether the first statement begins at the first column. -/
def StartsFlush (ts : List Token) : Prop := firstKind? ts ≠ some .indent

instance (ts : List Token) : Decidable (StartsFlush ts) := inferInstanceAs (Decidable (_ ≠ _))

namespace StartsFlush
variable {ts others : List Token}

theorem of_append (hts : ∀ t ∈ ts, t.kind = .comment ∨ t.kind = .lineBreak)
    (h : StartsFlush (ts ++ others)) : StartsFlush others := by
  have hnone : firstKind? ts = none := by
    refine List.find?_eq_none.2 (List.forall_mem_map.2 fun t ht => ?_)
    rcases hts t ht with hkind | hkind <;> simp [hkind]
  rwa [StartsFlush, firstKind?, List.map_append, List.find?_append, ← firstKind?, hnone,
    Option.none_or] at h

theorem head? (h : StartsFlush (ts ++ others)) : ts.head?.map (·.kind) ≠ some .indent := by
  intro hindent
  obtain ⟨t, hhead, hkind⟩ := Option.map_eq_some_iff.1 hindent
  obtain ⟨rest, rfl⟩ := List.head?_eq_some_iff.1 hhead
  refine h ?_
  rw [firstKind?, List.cons_append, List.map_cons, hkind]
  exact List.find?_cons_of_pos (by decide)

end StartsFlush

section texts
variable {level : Nat}

theorem exists_finish {st st' : LexState} (h : st.IsPadded level st') {line : Nat} {ts : List Token}
    (hfinish : finish st line = .ok ts) (line' : Nat) : ∃ us, finish st' line' = .ok us := by
  unfold finish at hfinish ⊢
  rcases h.open? with ⟨hopen, hopen'⟩ | ⟨o, _, hopen, -⟩
  · rw [hopen] at hfinish
    rw [hopen', h.brackets, h.joined]
    dsimp only at hfinish ⊢
    split at hfinish
    · next hclosed => exact ⟨_, if_pos hclosed⟩
    · exact absurd hfinish nofun
  · rw [hopen] at hfinish
    exact absurd hfinish nofun

theorem lexLines_cons {st next : LexState} {line : Nat} {text : List Char} {rest : List (List Char)}
    {first others : List Token} (hfirst : lexLine st line (text ++ ['\n']) = .ok (first, next))
    (hothers : lexLines next (line + 1) rest = .ok others) :
    lexLines st line (text :: rest) = .ok (first ++ others) := by
  rw [lexLines, hfirst]
  show (lexLines _ _ _ >>= _) = _
  rw [hothers]
  rfl

/-- Lines that can be read can be read when they are deeper. -/
theorem exists_lexLines (hpad : 8 ∣ indentWidth * level) {ls : List (List Char)}
    (hls : ∀ text ∈ ls, '\n' ∉ text ∧ IsPlain text) {st st' : LexState} (h : st.IsPadded level st')
    (hdeeper : st'.indents = deeper (indentWidth * level) st.indents) {line : Nat}
    {ts : List Token} (hts : lexLines st line ls = .ok ts) (line' : Nat) :
    ∃ us, lexLines st' line' (ls.map (indentLine level)) = .ok us := by
  induction ls generalizing st st' line line' ts with
  | nil => exact exists_finish h hts line'
  | cons text rest ih =>
    obtain ⟨⟨hbreak, hplain⟩, hrest⟩ := List.forall_mem_cons.1 hls
    obtain ⟨first, next, others, hfirst, hothers, -⟩ := exists_of_lexLines hts
    obtain ⟨first', next', hfirst', hdeep⟩ := exists_lexLine hpad hplain h hdeeper hfirst line'
    -- the same brackets and strings are open behind both lines, so the others begin alike
    obtain ⟨hnext, -⟩ := lexLine_padded h hbreak hfirst hfirst'
    obtain ⟨others', hothers'⟩ := ih hrest hnext hdeep hothers (line' + 1)
    exact ⟨first' ++ others', lexLines_cons hfirst' hothers'⟩

/-- Up to its first statement a text is read in the state at its beginning. -/
theorem exists_lexLines_start (hpad : 8 ∣ indentWidth * level) (hpos : 0 < level)
    {ls : List (List Char)} (hls : ∀ text ∈ ls, '\n' ∉ text ∧ IsPlain text) {line : Nat}
    {ts : List Token} (hts : lexLines .start line ls = .ok ts) (hflush : StartsFlush ts)
    (line' : Nat) : ∃ us, lexLines .start line' (ls.map (indentLine level)) = .ok us := by
  induction ls generalizing line line' ts with
  | nil => exact exists_finish (isPadded_start level) hts line'
  | cons text rest ih =>
    obtain ⟨⟨hbreak, hplain⟩, hrest⟩ := List.forall_mem_cons.1 hls
    obtain ⟨first, next, others, hfirst, hothers, rfl⟩ := exists_of_lexLines hts
    have hsame := isEmptyLine_indented level text
    -- in front of the first statement nothing is open
    have hline : statementLine .start line (text ++ ['\n']) = .ok (first, next) := hfirst
    rcases statementLine_cases hline with
      ⟨hempty, rfl, rfl⟩ | ⟨hstatement, layout, inner, hindent, rfl, rfl⟩
    · have hlater := hflush.of_append fun t ht => mem_emptyLine ht
      obtain ⟨us, hus⟩ := ih hrest hothers hlater (line' + 1)
      exact ⟨_, lexLines_cons (statementLine_of_isEmptyLine (hsame.trans hempty) _ _) hus⟩
    · rw [List.append_assoc] at hflush
      have hcolumn := indentColumn_indented hpad hplain hstatement
      obtain ⟨layout', inner', hindent', hdeeper⟩ := indentStep_start
        (Nat.mul_pos (by decide) hpos) hcolumn hindent hflush.head? line'
      have hline' := statementLine_of_indentStep (hsame.trans hstatement) hindent'
      obtain ⟨hpadded, -⟩ := lexLine_padded (isPadded_start level) hbreak hfirst hline'
      obtain ⟨us, hus⟩ := exists_lexLines hpad hrest hpadded
        (by rw [indents_scan, indents_scan, hdeeper]) hothers (line' + 1)
      exact ⟨_, lexLines_cons hline' hus⟩

/-- Code whose first statement begins at the first column can be read as the body of a block, if the
    spaces in front of it reach a tab stop. -/
theorem exists_tokens_body (hpad : 8 ∣ indentWidth * level) (hpos : 0 < level) {code : String}
    (hcode : ∀ text ∈ lines code.toList, IsPlain text)
    (hlast : (lines code.toList).getLast? ≠ some []) {ts : List Token}
    (hts : tokens (lines code.toList) = .ok ts) (hflush : StartsFlush ts) :
    ∃ us, tokens (lines (Fragment.body code level).toList) = .ok us := by
  obtain ⟨before, after, hlines⟩ := Text.lines_eq_around_trimBreaks code.toList
  -- the text does not end in an empty line, so nothing is cut off behind it
  obtain rfl : after = 0 := by
    cases after with
    | zero => rfl
    | succ n =>
      rw [hlines, List.replicate_succ', ← List.append_assoc, List.getLast?_concat] at hlast
      exact absurd rfl hlast
  have hsolid : Fragment.isBlank code ≠ true := by
    intro hblank
    obtain ⟨text, htext⟩ := Option.ne_none_iff_exists'.1
      (mt List.getLast?_eq_none_iff.1 (Text.lines_ne_nil code.toList))
    have hmem := List.mem_of_getLast? htext
    have hempty : text = [] := (hcode text hmem).blank <| List.all_eq_true.2 fun c hc =>
      List.all_eq_true.1 hblank c (Text.mem_of_mem_lines hmem hc)
    rw [htext, hempty] at hlast
    exact absurd rfl hlast
  rw [Fragment.lines_body, if_neg hsolid]
  rw [tokens, hlines, List.replicate_zero, List.append_nil] at hts
  obtain ⟨breaks, inner, rfl, hbreaks, hinner⟩ := lexLines_replicate_append hts
  refine exists_lexLines_start hpad hpos (fun text htext => ?_) hinner
    (hflush.of_append fun t ht => Or.inr (hbreaks t ht)) 1
  exact ⟨Text.not_mem_of_mem_lines htext,
    hcode text (Fragment.mem_lines_of_mem_lines_trimBreaks htext)⟩

end texts

end LayerGraph.Flow
