import LayerGraph.Proofs.Flow.Qualifying
import LayerGraph.Proofs.Result

/-! # Lines with qualified names

    Every line is read in the same way: a part without names, which is looked at as a whole, and a
    part that is scanned (`LineReading`). Insertions in front of names are insertions into the
    second part, so they neither change how the line begins nor what is open behind it; from line to
    line this gives the tokens of the qualified text (`lexLines_qualified`).
-/

namespace LayerGraph.Flow

/-! ### Indentation -/

/-- Blanks in front of a statement change the indentations and nothing else. -/
theorem exists_of_indentStep {st next : LexState} {line : Nat} {blanks : List Char}
    {layout : List Token} (h : indentStep st line blanks = .ok (layout, next)) :
    ∃ indents, next = { st with indents := indents } := by
  unfold indentStep at h
  simp only at h
  split at h
  · exact ⟨_, (Prod.mk.inj (Except.ok.inj h)).2.symm⟩
  · split at h
    · exact ⟨_, (Prod.mk.inj (Except.ok.inj h)).2.symm⟩
    · exact absurd h nofun

theorem open?_of_indentStep {st next : LexState} {line : Nat} {blanks : List Char}
    {layout : List Token} (h : indentStep st line blanks = .ok (layout, next)) :
    next.open? = st.open? := by
  obtain ⟨indents, rfl⟩ := exists_of_indentStep h
  rfl

theorem kind_of_mem_indentStep {st next : LexState} {line : Nat} {blanks : List Char}
    {layout : List Token} (h : indentStep st line blanks = .ok (layout, next)) {t : Token}
    (ht : t ∈ layout) : t.kind ≠ .name ∧ t.kind ≠ .string := by
  unfold indentStep at h
  simp only at h
  split at h
  · obtain ⟨rfl, -⟩ := Prod.mk.inj (Except.ok.inj h)
    rw [List.mem_singleton.1 ht]
    exact ⟨nofun, nofun⟩
  · split at h
    · obtain ⟨rfl, -⟩ := Prod.mk.inj (Except.ok.inj h)
      rw [List.eq_of_mem_replicate ht]
      exact ⟨nofun, nofun⟩
    · exact absurd h nofun

theorem mem_emptyLine {line column : Nat} {rest : List Char} {t : Token}
    (ht : t ∈ emptyLine line column rest) : t.kind = .comment ∨ t.kind = .lineBreak := by
  unfold emptyLine at ht
  split at ht
  · rcases List.mem_cons.1 ht with rfl | ht
    · exact Or.inl rfl
    · exact Or.inr (by rw [List.mem_singleton.1 ht])
  · exact Or.inr (by rw [List.mem_singleton.1 ht])

theorem kind_of_mem_emptyLine {line column : Nat} {rest : List Char} {t : Token}
    (ht : t ∈ emptyLine line column rest) : t.kind ≠ .name ∧ t.kind ≠ .string := by
  rcases mem_emptyLine ht with hkind | hkind <;> rw [hkind] <;> exact ⟨nofun, nofun⟩

/-! ### How a line is read -/

theorem lexLine_of_some {st : LexState} {o : OpenString} (hopen : st.open? = some o) (line : Nat)
    (text : List Char) : lexLine st line text = .ok (continueString st o line text) := by
  rw [lexLine, hopen]

section inside
variable {o : OpenString} {text : List Char} (st : LexState) (line : Nat)

/-- Behind the end of an open string, the rest of the line is scanned. -/
theorem continueString_of_some {n : Nat} (h : closeLength o.quote o.triple text = some n) :
    continueString st o line text =
      (⟨.string, o.text ++ text.take n, o.line, o.column⟩ ::
          (scan text.length { st with open? := none, strict := false } line n (text.drop n)).1,
        (scan text.length { st with open? := none, strict := false } line n (text.drop n)).2) := by
  rw [continueString, h]

/-- A line that does not close an open string belongs to it as a whole. -/
theorem continueString_of_none (h : closeLength o.quote o.triple text = none) :
    continueString st o line text =
      if st.strict && !endsJoined text then
        ([⟨.stray, o.text ++ text, o.line, o.column⟩], { st with open? := none })
      else ([], { st with open? := some { o with text := o.text ++ text } }) := by
  rw [continueString, h]

end inside

theorem lexLine_of_none {st : LexState} (hopen : st.open? = none) (line : Nat)
    (text : List Char) :
    lexLine st line text =
      if st.brackets = 0 ∧ !st.joined then statementLine st line text
      else .ok (scan text.length { st with joined := false } line 0 text) := by
  rw [lexLine, hopen]

/-- A line at the start of a statement has no statement, or its blanks indent one. -/
theorem statementLine_cases {st next : LexState} {line : Nat} {text : List Char}
    {tokens : List Token} (h : statementLine st line text = .ok (tokens, next)) :
    (isEmptyLine (text.dropWhile isGap) = true ∧
      tokens = emptyLine line (text.takeWhile isGap).length (text.dropWhile isGap) ∧ next = st) ∨
    (isEmptyLine (text.dropWhile isGap) = false ∧ ∃ layout inner,
      indentStep st line (text.takeWhile isGap) = .ok (layout, inner) ∧
      tokens = layout ++ (scan (text.dropWhile isGap).length inner line
        (text.takeWhile isGap).length (text.dropWhile isGap)).1 ∧
      next = (scan (text.dropWhile isGap).length inner line
        (text.takeWhile isGap).length (text.dropWhile isGap)).2) := by
  unfold statementLine at h
  simp only at h
  split at h
  · next hempty =>
    obtain ⟨rfl, rfl⟩ := Prod.mk.inj (Except.ok.inj h)
    exact Or.inl ⟨hempty, rfl, rfl⟩
  · next hstatement =>
    obtain ⟨⟨layout, inner⟩, hindent, h⟩ := Result.bind_eq_ok.1 h
    obtain ⟨rfl, rfl⟩ := Prod.mk.inj (Except.ok.inj h)
    exact Or.inr ⟨Bool.eq_false_iff.2 hstatement, layout, inner, hindent, rfl, rfl⟩

theorem statementLine_of_isEmptyLine {text : List Char}
    (h : isEmptyLine (text.dropWhile isGap) = true) (st : LexState) (line : Nat) :
    statementLine st line text =
      .ok (emptyLine line (text.takeWhile isGap).length (text.dropWhile isGap), st) := by
  unfold statementLine
  simp only
  rw [if_pos h]

theorem statementLine_of_indentStep {text : List Char}
    (h : isEmptyLine (text.dropWhile isGap) = false) {st inner : LexState} {line : Nat}
    {layout : List Token}
    (hindent : indentStep st line (text.takeWhile isGap) = .ok (layout, inner)) :
    statementLine st line text =
      .ok (layout ++ (scan (text.dropWhile isGap).length inner line
          (text.takeWhile isGap).length (text.dropWhile isGap)).1,
        (scan (text.dropWhile isGap).length inner line
          (text.takeWhile isGap).length (text.dropWhile isGap)).2) := by
  unfold statementLine
  simp only
  rw [if_neg (Bool.eq_false_iff.1 h), hindent]
  rfl

/-- A line that is read in two parts: one without names, and one that is scanned. What the second
    one is replaced by is scanned in its place. -/
structure LineReading (st : LexState) (line : Nat) (text : List Char) (tokens : List Token)
    (next : LexState) where
  front : List Char
  rest : List Char
  text_eq : text = front ++ rest
  layout : List Token
  scanned : List Token
  tokens_eq : tokens = layout ++ scanned
  layout_kind : ∀ t ∈ layout, t.kind ≠ .name
  inner : LexState
  reading : Scanned line inner front.length rest scanned next
  replaced : ∀ (m : Nat) {rest' : List Char}, Qualified rest rest' →
    ∃ (layout' : List Token) (m' column : Nat),
      layout'.map Token.content = layout.map Token.content ∧
        ∀ {scanned' : List Token} {next' : LexState},
          Scanned line (inner.moved m') column rest' scanned' next' →
            lexLine (st.moved m) line (front ++ rest') = .ok (layout' ++ scanned', next')

namespace LineReading
variable {st next : LexState} {line : Nat} {text : List Char} {tokens : List Token}

/-- Nothing is scanned in a line without names. -/
def ofLayout (hkind : ∀ t ∈ tokens, t.kind ≠ .name)
    (h : ∀ m, ∃ (tokens' : List Token) (m' : Nat),
      tokens'.map Token.content = tokens.map Token.content ∧
        lexLine (st.moved m) line text = .ok (tokens', next.moved m')) :
    LineReading st line text tokens next where
  front := text
  rest := []
  text_eq := (List.append_nil text).symm
  layout := tokens
  scanned := []
  tokens_eq := (List.append_nil tokens).symm
  layout_kind := hkind
  inner := next
  reading := .blank nofun
  replaced := by
    intro m rest' hrest
    obtain ⟨tokens', m', hcontents, hline⟩ := h m
    refine ⟨tokens', m', 0, hcontents, fun {scanned' next'} hscanned => ?_⟩
    obtain rfl := hrest.eq_nil
    have hnone := hscanned.scan_eq (Nat.le_refl 0)
    obtain ⟨rfl, rfl⟩ := Prod.mk.inj hnone
    rw [List.append_nil, List.append_nil]
    exact hline

/-- The rest of a line is scanned behind a part that is read as before. -/
theorem scan_rest (inner : LexState) (column : Nat) (rest : List Char) {fuel : Nat}
    (hfuel : rest.length ≤ fuel) :
    Scanned line inner column rest (scan fuel inner line column rest).1
      (scan fuel inner line column rest).2 := by
  obtain ⟨tokens, final, h⟩ : ∃ tokens final, Scanned line inner column rest tokens final :=
    Scanned.exists_tokens inner column rest
  rw [h.scan_eq hfuel]
  exact h

end LineReading

/-- A line inside an open string: nothing is scanned in front of its end. -/
theorem reading_continueString {st next : LexState} {o : OpenString} {line : Nat}
    {text : List Char} {tokens : List Token} (hopen : st.open? = some o)
    (h : continueString st o line text = (tokens, next)) :
    Nonempty (LineReading st line text tokens next) := by
  have hmoved (m : Nat) (text : List Char) :
      lexLine (st.moved m) line text =
        .ok (continueString (st.moved m) { o with column := m } line text) := by
    apply lexLine_of_some
    rw [LexState.moved, hopen]
    rfl
  cases hclose : closeLength o.quote o.triple text with
  | some n =>
    -- the string ends on this line, and what stands behind it is scanned
    rw [continueString_of_some st line hclose] at h
    obtain ⟨rfl, rfl⟩ := Prod.mk.inj h
    have hlength : (text.take n).length = n := List.length_take_of_le (closeLength_le hclose)
    refine ⟨{
      front := text.take n
      rest := text.drop n
      text_eq := (List.take_append_drop n text).symm
      layout := [⟨.string, o.text ++ text.take n, o.line, o.column⟩]
      scanned := _
      tokens_eq := rfl
      layout_kind := fun t ht => by simp [List.mem_singleton.1 ht]
      inner := { st with open? := none, strict := false }
      reading := by
        rw [hlength]
        exact LineReading.scan_rest _ n (text.drop n) (by rw [List.length_drop]; omega)
      replaced := fun m {rest'} hrest => ?_ }⟩
    refine ⟨[⟨.string, o.text ++ text.take n, o.line, m⟩], m, n, rfl, fun hscanned => ?_⟩
    have hnil : text.drop n = [] → rest' = [] := fun hdrop => (hdrop ▸ hrest).eq_nil
    have hfuel : rest'.length ≤ (text.take n ++ rest').length := by
      rw [List.length_append]
      omega
    have hreplaced := continueString_of_some (o := { o with column := m }) (st.moved m) line
      (closeLength_of_replaced hclose rest')
    rw [take_of_replaced hnil, drop_of_replaced hnil] at hreplaced
    rw [hmoved, hreplaced]
    exact congrArg (fun scanned => Except.ok
      (⟨.string, o.text ++ text.take n, o.line, m⟩ :: scanned.1, scanned.2))
      (hscanned.scan_eq hfuel)
  | none =>
    -- the whole line belongs to the string, whether that goes on or not
    have hline (m : Nat) := (hmoved m text).trans
      (congrArg Except.ok (continueString_of_none (st.moved m) line hclose))
    rw [continueString_of_none st line hclose] at h
    split at h
    · next hstray =>
      obtain ⟨rfl, rfl⟩ := Prod.mk.inj h
      refine ⟨.ofLayout (fun t ht => by simp [List.mem_singleton.1 ht]) fun m => ?_⟩
      refine ⟨[⟨.stray, o.text ++ text, o.line, m⟩], m, rfl, (hline m).trans ?_⟩
      exact congrArg Except.ok (if_pos hstray)
    · next hstray =>
      obtain ⟨rfl, rfl⟩ := Prod.mk.inj h
      refine ⟨.ofLayout (fun t ht => absurd ht List.not_mem_nil) fun m => ?_⟩
      refine ⟨[], m, rfl, (hline m).trans ?_⟩
      exact congrArg Except.ok (if_neg hstray)

/-- Where a statement begins behind the blanks of a line, one begins behind those of the qualified
    line. -/
theorem statement_of_qualified {rest rest' : List Char} (hrest : Qualified rest rest')
    (hgap : ∀ c ∈ rest.head?, isGap c = false) (hempty : isEmptyLine rest = false) :
    ∃ c cs, rest' = c :: cs ∧ isGap c = false ∧ isEmptyLine rest' = false := by
  cases hrest with
  | nil => exact absurd hempty nofun
  | keep c rest => exact ⟨c, _, rfl, hgap c rfl, hempty⟩
  | insert hc rest => exact ⟨'s', _, rfl, by decide, by rfl⟩

/-- A line at the start of a statement: its indentation is read from its blanks. -/
theorem reading_statementLine {st next : LexState} {line : Nat} {text : List Char}
    {tokens : List Token} (hopen : st.open? = none) (hstart : st.brackets = 0 ∧ !st.joined)
    (h : statementLine st line text = .ok (tokens, next)) :
    Nonempty (LineReading st line text tokens next) := by
  have hmoved (m : Nat) (text : List Char) :
      lexLine (st.moved m) line text = statementLine st line text := by
    rw [moved_of_none hopen, lexLine_of_none hopen, if_pos hstart]
  have hblanks : ∀ b ∈ text.takeWhile isGap, isGap b = true :=
    List.all_eq_true.1 List.all_takeWhile
  rcases statementLine_cases h with
    ⟨hempty, rfl, rfl⟩ | ⟨hstatement, layout, inner, hindent, rfl, rfl⟩
  · refine ⟨.ofLayout (fun t ht => (kind_of_mem_emptyLine ht).1) fun m => ⟨_, m, rfl, ?_⟩⟩
    rw [hmoved, moved_of_none hopen, statementLine_of_isEmptyLine hempty]
  · -- the blanks stay, and with them the indentation; the statement behind them is scanned
    refine ⟨{
      front := text.takeWhile isGap
      rest := text.dropWhile isGap
      text_eq := List.takeWhile_append_dropWhile.symm
      layout := layout
      scanned := _
      tokens_eq := rfl
      layout_kind := fun t ht => (kind_of_mem_indentStep hindent ht).1
      inner := inner
      reading := LineReading.scan_rest _ _ _ (Nat.le_refl _)
      replaced := fun m {rest'} hrest =>
        ⟨layout, m, (text.takeWhile isGap).length, rfl, fun hscanned => ?_⟩ }⟩
    have hhead : ∀ c ∈ (text.dropWhile isGap).head?, isGap c = false := by
      intro c hc
      have hnot := List.head?_dropWhile_not isGap text
      rw [Option.mem_def.1 hc] at hnot
      simpa using hnot
    obtain ⟨c, cs, rfl, hgap, hstatement'⟩ := statement_of_qualified hrest hhead hstatement
    have htake := Scanned.takeWhile_isGap hblanks hgap cs
    have hdrop : (text.takeWhile isGap ++ c :: cs).dropWhile isGap = c :: cs := by
      rw [List.dropWhile_append_of_pos hblanks, List.dropWhile_cons_of_neg (by simp [hgap])]
    rw [moved_of_none ((open?_of_indentStep hindent).trans hopen)] at hscanned
    have hsame : isEmptyLine ((text.takeWhile isGap ++ c :: cs).dropWhile isGap) = false := by
      rw [hdrop, hstatement']
    have hindent' : indentStep st line ((text.takeWhile isGap ++ c :: cs).takeWhile isGap) =
        .ok (layout, inner) := by
      rw [htake, hindent]
    rw [hmoved, statementLine_of_indentStep hsame hindent', htake, hdrop,
      hscanned.scan_eq (Nat.le_refl _)]

/-- Inside brackets and behind a backslash, the whole line is scanned. -/
theorem reading_joinedLine {st : LexState} {line : Nat} {text : List Char}
    (hopen : st.open? = none) (hstart : ¬(st.brackets = 0 ∧ !st.joined)) :
    Nonempty (LineReading st line text
      (scan text.length { st with joined := false } line 0 text).1
      (scan text.length { st with joined := false } line 0 text).2) := by
  refine ⟨{
    front := []
    rest := text
    text_eq := rfl
    layout := []
    scanned := _
    tokens_eq := rfl
    layout_kind := nofun
    inner := { st with joined := false }
    reading := LineReading.scan_rest _ 0 text (Nat.le_refl _)
    replaced := fun m {rest'} hrest => ⟨[], m, 0, rfl, fun hscanned => ?_⟩ }⟩
  -- no string is open, so there is no column that could be another one
  have hinner : ({ st with joined := false } : LexState).moved m = { st with joined := false } := by
    apply moved_of_none
    exact hopen
  rw [hinner] at hscanned
  rw [List.nil_append, moved_of_none hopen, lexLine_of_none hopen, if_neg hstart]
  exact congrArg Except.ok (hscanned.scan_eq (Nat.le_refl _))

/-- Every line that is read is read in two parts. -/
theorem reading_lexLine {st next : LexState} {line : Nat} {text : List Char}
    {tokens : List Token} (h : lexLine st line text = .ok (tokens, next)) :
    Nonempty (LineReading st line text tokens next) := by
  cases hopen : st.open? with
  | some o =>
    rw [lexLine_of_some hopen] at h
    exact reading_continueString hopen (Except.ok.inj h)
  | none =>
    rw [lexLine_of_none hopen] at h
    split at h
    · next hstart => exact reading_statementLine hopen hstart h
    · next hstart =>
      obtain ⟨rfl, rfl⟩ := Prod.mk.inj (Except.ok.inj h)
      exact reading_joinedLine hopen hstart

namespace LineReading
variable {st next : LexState} {line : Nat} {text : List Char} {tokens : List Token}

/-- The names of a line are found in the part that is scanned. -/
theorem mem_scanned (r : LineReading st line text tokens next) {t : Token} (ht : t ∈ tokens)
    (hname : t.kind = .name) : t ∈ r.scanned := by
  rw [r.tokens_eq] at ht
  rcases List.mem_append.1 ht with ht | ht
  · exact absurd hname (r.layout_kind t ht)
  · exact ht

/-- A name stands at a character of its line that can begin one. -/
theorem exists_isNameStart (r : LineReading st line text tokens next) {t : Token}
    (ht : t ∈ tokens) (hname : t.kind = .name) :
    ∃ c, text[t.column]? = some c ∧ isNameStart c = true := by
  have hscanned := r.mem_scanned ht hname
  obtain ⟨c, hat, hc⟩ := r.reading.exists_isNameStart hscanned hname
  have hle := (r.reading.mem_tokens hscanned).2
  rw [r.text_eq, List.getElem?_append_right hle]
  exact ⟨c, hat, hc⟩

/-- No name stands at the end of a line. -/
theorem qualifyFrom_lineEnd {text : List Char}
    (r : LineReading st line (text ++ ['\n']) tokens next) {columns : List Nat}
    (hmarks : ∀ k ∈ columns, ∃ t ∈ tokens, t.kind = .name ∧ t.column = k) :
    qualifyFrom columns 0 (text ++ ['\n']) = qualifyLine columns text ++ ['\n'] := by
  rw [qualifyFrom_append, ← qualifyLine_eq, qualifyFrom_of_not_mem]
  intro k hk hle hlt
  obtain ⟨t, ht, hname, rfl⟩ := hmarks k hk
  obtain ⟨c, hat, hc⟩ := r.exists_isNameStart ht hname
  have hend : t.column = text.length := by
    simp only [List.length_cons, List.length_nil] at hlt
    omega
  rw [hend, List.getElem?_append_right (Nat.le_refl _), Nat.sub_self] at hat
  obtain rfl := Option.some.inj hat
  exact absurd hc (by decide)

/-- Insertions in front of names of a line are insertions into the part that is scanned. -/
theorem qualified (r : LineReading st line text tokens next) {columns : List Nat}
    (hmarks : ∀ k ∈ columns, ∃ t ∈ tokens, t.kind = .name ∧ t.column = k) (m : Nat) :
    ∃ (tokens' : List Token) (m' : Nat),
      lexLine (st.moved m) line (qualifyFrom columns 0 text) = .ok (tokens', next.moved m') ∧
        tokens'.map Token.content = tokens.flatMap fun t => t.expansion (t.isNameAt columns) := by
  have hscanned : ∀ k ∈ columns, ∃ t ∈ r.scanned, t.kind = .name ∧ t.column = k := by
    intro k hk
    obtain ⟨t, ht, hname, hcolumn⟩ := hmarks k hk
    exact ⟨t, r.mem_scanned ht hname, hname, hcolumn⟩
  -- nothing is inserted into the part without names
  have hfront : qualifyFrom columns 0 r.front = r.front := by
    refine qualifyFrom_of_not_mem fun k hk _ hlt => ?_
    obtain ⟨t, ht, -, rfl⟩ := hscanned k hk
    have hle := (r.reading.mem_tokens ht).2
    omega
  have hlayout : r.layout.map Token.content =
      r.layout.flatMap fun t => t.expansion (t.isNameAt columns) := by
    refine (flatMap_expansion_of_false fun t ht => ?_).symm
    rw [Token.isNameAt, beq_false_of_ne (r.layout_kind t ht), Bool.false_and]
  obtain ⟨hqualified, hscan⟩ := r.reading.qualified fun k hk _ => hscanned k hk
  obtain ⟨layout', m', column', hcontents, hreplaced⟩ := r.replaced m hqualified
  obtain ⟨scanned', m'', hscan, hscannedContents⟩ := hscan m' column'
  have htext : qualifyFrom columns 0 text =
      r.front ++ qualifyFrom columns r.front.length r.rest := by
    have hsplit := qualifyFrom_append columns 0 r.front r.rest
    rw [hfront, Nat.zero_add, ← r.text_eq] at hsplit
    exact hsplit
  refine ⟨_, m'', htext ▸ hreplaced hscan, ?_⟩
  rw [List.map_append, hcontents, hscannedContents, hlayout, ← List.flatMap_append, ← r.tokens_eq]

end LineReading

/-! ### Names in lines -/

/-- Whether a token is a name at the place of one of these. -/
def Token.isNameAmong (t : Token) (names : List Token) : Bool :=
  t.kind == .name && names.any fun r => r.line == t.line && r.column == t.column

/-- The columns of names on a line. -/
def columnsOn (names : List Token) (line : Nat) : List Nat :=
  (names.filter (·.line == line)).map (·.column)

theorem contains_columnsOn (names : List Token) (line column : Nat) :
    (columnsOn names line).contains column =
      names.any fun r => r.line == line && r.column == column := by
  rw [Bool.eq_iff_iff, List.contains_iff_mem, columnsOn, List.mem_map, List.any_eq_true]
  constructor
  · rintro ⟨r, hr, hcolumn⟩
    rw [List.mem_filter] at hr
    exact ⟨r, hr.1, by rw [hr.2, hcolumn, beq_self_eq_true]; rfl⟩
  · rintro ⟨r, hr, hat⟩
    rw [Bool.and_eq_true, beq_iff_eq (b := column)] at hat
    exact ⟨r, List.mem_filter.2 ⟨hr, hat.1⟩, hat.2⟩

/-- If two tokens are names, they stand at different places. -/
def Token.Apart (t u : Token) : Prop :=
  t.kind = .name → u.kind = .name → ¬(t.line = u.line ∧ t.column = u.column)

theorem line_of_mem_lexLine {st next : LexState} {line : Nat} {text : List Char}
    {tokens : List Token} (h : lexLine st line text = .ok (tokens, next)) {t : Token}
    (ht : t ∈ tokens) (hname : t.kind = .name) : t.line = line := by
  obtain ⟨r⟩ := reading_lexLine h
  exact (r.reading.mem_tokens (r.mem_scanned ht hname)).1

theorem pairwise_lexLine {st next : LexState} {line : Nat} {text : List Char}
    {tokens : List Token} (h : lexLine st line text = .ok (tokens, next)) :
    tokens.Pairwise Token.Apart := by
  obtain ⟨r⟩ := reading_lexLine h
  have hlayout : r.layout.Pairwise Token.Apart :=
    List.pairwise_of_forall_mem_list fun t ht u _ hname => absurd hname (r.layout_kind t ht)
  have hscanned : r.scanned.Pairwise Token.Apart :=
    r.reading.pairwise_column.imp fun hlt _ _ hsame => absurd hsame.2 (Nat.ne_of_lt hlt)
  rw [r.tokens_eq, List.pairwise_append]
  exact ⟨hlayout, hscanned, fun t ht u _ hname => absurd hname (r.layout_kind t ht)⟩

theorem kind_of_mem_finish {st : LexState} {line : Nat} {tokens : List Token}
    (h : finish st line = .ok tokens) {t : Token} (ht : t ∈ tokens) :
    t.kind ≠ .name ∧ t.kind ≠ .string := by
  unfold finish at h
  split at h
  · exact absurd h nofun
  · split at h
    · obtain rfl := Except.ok.inj h
      rcases List.mem_append.1 ht with ht | ht
      · rw [List.eq_of_mem_replicate ht]
        exact ⟨nofun, nofun⟩
      · rw [List.mem_singleton.1 ht]
        exact ⟨nofun, nofun⟩
    · exact absurd h nofun

theorem finish_moved {st : LexState} {line : Nat} {tokens : List Token}
    (h : finish st line = .ok tokens) (m : Nat) : finish (st.moved m) line = .ok tokens := by
  cases hopen : st.open? with
  | none => rw [moved_of_none hopen, h]
  | some o =>
    rw [finish, hopen] at h
    exact absurd h nofun

/-- The tokens of lines are those of the first and those of the others. -/
theorem exists_of_lexLines {text : List Char} {rest : List (List Char)} {st : LexState}
    {line : Nat} {tokens : List Token} (h : lexLines st line (text :: rest) = .ok tokens) :
    ∃ first next others, lexLine st line (text ++ ['\n']) = .ok (first, next) ∧
      lexLines next (line + 1) rest = .ok others ∧ tokens = first ++ others := by
  rw [lexLines] at h
  obtain ⟨⟨first, next⟩, hfirst, h⟩ := Result.bind_eq_ok.1 h
  obtain ⟨others, hothers, h⟩ := Result.bind_eq_ok.1 h
  exact ⟨first, next, others, hfirst, hothers, (Except.ok.inj h).symm⟩

/-- The names of lines stand on these lines. -/
theorem line_of_mem_lexLines {lines : List (List Char)} {st : LexState} {line : Nat}
    {tokens : List Token} (h : lexLines st line lines = .ok tokens) {t : Token} (ht : t ∈ tokens)
    (hname : t.kind = .name) : line ≤ t.line := by
  induction lines generalizing st line tokens with
  | nil => exact absurd hname (kind_of_mem_finish h ht).1
  | cons text rest ih =>
    obtain ⟨first, next, others, hfirst, hothers, rfl⟩ := exists_of_lexLines h
    rcases List.mem_append.1 ht with ht | ht
    · exact Nat.le_of_eq (line_of_mem_lexLine hfirst ht hname).symm
    · exact Nat.le_of_succ_le (ih hothers ht)

/-- No two names stand at the same place. -/
theorem pairwise_lexLines {lines : List (List Char)} {st : LexState} {line : Nat}
    {tokens : List Token} (h : lexLines st line lines = .ok tokens) :
    tokens.Pairwise Token.Apart := by
  induction lines generalizing st line tokens with
  | nil =>
    exact List.pairwise_of_forall_mem_list fun t ht u _ hname =>
      absurd hname (kind_of_mem_finish h ht).1
  | cons text rest ih =>
    obtain ⟨first, next, others, hfirst, hothers, rfl⟩ := exists_of_lexLines h
    refine List.pairwise_append.2 ⟨pairwise_lexLine hfirst, ih hothers, ?_⟩
    intro t ht u hu htname huname hsame
    have hline := line_of_mem_lexLine hfirst ht htname
    have hlater := line_of_mem_lexLines hothers hu huname
    omega

/-- If `self.` is put in front of names only, the lines have the same tokens as before, with those
    of `self.` in front of these names. -/
theorem lexLines_qualified {names : List Token} {lines : List (List Char)} {st : LexState}
    {start : Nat} {tokens : List Token} (h : lexLines st (start + 1) lines = .ok tokens)
    (hnames : ∀ r ∈ names, start < r.line →
      ∃ t ∈ tokens, t.kind = .name ∧ t.line = r.line ∧ t.column = r.column) (m : Nat) :
    ∃ tokens' : List Token,
      lexLines (st.moved m) (start + 1) ((lines.zipIdx start).map fun (line, index) =>
          qualifyLine (columnsOn names (index + 1)) line) = .ok tokens' ∧
        tokens'.map Token.content =
          tokens.flatMap fun t => t.expansion (t.isNameAmong names) := by
  induction lines generalizing st start tokens m with
  | nil =>
    refine ⟨tokens, finish_moved h m, (flatMap_expansion_of_false fun t ht => ?_).symm⟩
    rw [Token.isNameAmong, beq_false_of_ne (kind_of_mem_finish h ht).1, Bool.false_and]
  | cons text rest ih =>
    obtain ⟨first, next, others, hfirst, hothers, rfl⟩ := exists_of_lexLines h
    obtain ⟨reading⟩ := reading_lexLine hfirst
    -- the names on this line are among the first tokens, all others behind them
    have hhere : ∀ k ∈ columnsOn names (start + 1),
        ∃ t ∈ first, t.kind = .name ∧ t.column = k := by
      intro k hk
      obtain ⟨r, hr, rfl⟩ := List.mem_map.1 hk
      have hline : r.line = start + 1 := beq_iff_eq.1 (List.mem_filter.1 hr).2
      obtain ⟨t, ht, hname, hsame, hcolumn⟩ := hnames r (List.mem_filter.1 hr).1 (by omega)
      rcases List.mem_append.1 ht with ht | ht
      · exact ⟨t, ht, hname, hcolumn⟩
      · have hlater := line_of_mem_lexLines hothers ht hname
        omega
    have hlater : ∀ r ∈ names, start + 1 < r.line →
        ∃ t ∈ others, t.kind = .name ∧ t.line = r.line ∧ t.column = r.column := by
      intro r hr hlt
      obtain ⟨t, ht, hname, hsame, hcolumn⟩ := hnames r hr (by omega)
      rcases List.mem_append.1 ht with ht | ht
      · have hline := line_of_mem_lexLine hfirst ht hname
        omega
      · exact ⟨t, ht, hname, hsame, hcolumn⟩
    obtain ⟨first', m', hfirst', hcontents⟩ := reading.qualified hhere m
    obtain ⟨others', hothers', hcontents'⟩ := ih hothers hlater m'
    refine ⟨first' ++ others', ?_, ?_⟩
    · rw [List.zipIdx_cons, List.map_cons, lexLines, ← reading.qualifyFrom_lineEnd hhere, hfirst']
      show (lexLines _ _ _ >>= _) = _
      rw [hothers']
      rfl
    · rw [List.map_append, List.flatMap_append, hcontents, hcontents']
      refine congrArg (· ++ _) (flatMap_expansion_congr fun t ht => ?_)
      rw [Token.isNameAt, Token.isNameAmong]
      by_cases hname : t.kind = .name
      · rw [contains_columnsOn, line_of_mem_lexLine hfirst ht hname]
      · rw [beq_false_of_ne hname, Bool.false_and, Bool.false_and]

end LayerGraph.Flow
