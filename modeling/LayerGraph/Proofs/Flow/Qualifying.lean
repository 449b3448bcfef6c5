import LayerGraph.Flow.Binding
import LayerGraph.Proofs.Flow.Scanned

/-! # Scanning a qualified line

    `self.` is put in front of columns of a line. If all of them are columns of names, the line
    falls into the same tokens as before, with the tokens of `self.` in front of those names
    (`Scanned.qualified`). The lexemes behind an insertion are found where they were, so the
    induction follows the rules by which the line was scanned; only columns move.
-/

namespace LayerGraph.Flow

/-! ### Contents -/

/-- The contents of a token with `self.` in front of it, if that belongs there. -/
def Token.expansion (t : Token) (isReference : Bool) : List (TokenKind × List Char) :=
  if isReference then [(.name, "self".toList), (.operator, ".".toList), t.content]
  else [t.content]

/-- Whether a token is a name at one of these columns. -/
def Token.isNameAt (t : Token) (columns : List Nat) : Bool :=
  t.kind == .name && columns.contains t.column

theorem flatMap_expansion_congr {tokens : List Token} {p q : Token → Bool}
    (h : ∀ t ∈ tokens, p t = q t) :
    (tokens.flatMap fun t => t.expansion (p t)) = tokens.flatMap fun t => t.expansion (q t) := by
  rw [List.flatMap_def, List.flatMap_def]
  exact congrArg List.flatten (List.map_congr_left fun t ht => by rw [h t ht])

/-- Without names to qualify, the contents stay what they are. -/
theorem flatMap_expansion_of_false {tokens : List Token} {p : Token → Bool}
    (h : ∀ t ∈ tokens, p t = false) :
    (tokens.flatMap fun t => t.expansion (p t)) = tokens.map Token.content := by
  rw [flatMap_expansion_congr h, List.map_eq_flatMap]
  rfl

/-! ### Insertions at columns -/

/-- A text with `self.` in front of the given columns, if it begins at the column `start`. -/
def qualifyFrom (columns : List Nat) (start : Nat) (cs : List Char) : List Char :=
  (cs.zipIdx start).flatMap fun (c, column) =>
    if columns.contains column then "self.".toList ++ [c] else [c]

theorem qualifyLine_eq (columns : List Nat) (line : List Char) :
    qualifyLine columns line = qualifyFrom columns 0 line := rfl

theorem qualifyFrom_cons (columns : List Nat) (start : Nat) (c : Char) (cs : List Char) :
    qualifyFrom columns start (c :: cs) =
      (if columns.contains start then "self.".toList ++ [c] else [c]) ++
        qualifyFrom columns (start + 1) cs := by
  rw [qualifyFrom, List.zipIdx_cons, List.flatMap_cons]
  rfl

theorem qualifyFrom_append (columns : List Nat) (start : Nat) (a b : List Char) :
    qualifyFrom columns start (a ++ b) =
      qualifyFrom columns start a ++ qualifyFrom columns (start + a.length) b := by
  rw [qualifyFrom, List.zipIdx_append, List.flatMap_append]
  rfl

/-- Where no column is given, nothing is inserted. -/
theorem qualifyFrom_of_not_mem {columns : List Nat} {cs : List Char} :
    ∀ {start : Nat}, (∀ k ∈ columns, start ≤ k → ¬k < start + cs.length) →
      qualifyFrom columns start cs = cs := by
  induction cs with
  | nil => exact fun _ => rfl
  | cons c cs ih =>
    intro start h
    -- the first character stands at the column `start`, where nothing is inserted
    have hstart : columns.contains start = false := by
      rw [← Bool.not_eq_true, List.contains_iff_mem]
      intro hmem
      exact h start hmem (Nat.le_refl _) (by rw [List.length_cons]; omega)
    rw [qualifyFrom_cons, hstart, ih]
    · rfl
    · intro k hk hle hlt
      exact h k hk (by omega) (by rw [List.length_cons]; omega)

/-- Where the only column is that behind some blanks, `self.` is inserted there. -/
theorem qualifyFrom_of_mem {columns : List Nat} {start : Nat} {blanks front : List Char} {c : Char}
    (hmark : start + blanks.length ∈ columns)
    (honly : ∀ k ∈ columns, start ≤ k →
      k = start + blanks.length ∨ start + (blanks ++ c :: front).length ≤ k) :
    qualifyFrom columns start (blanks ++ c :: front) =
      blanks ++ 's' :: 'e' :: 'l' :: 'f' :: '.' :: c :: front := by
  simp only [List.length_append, List.length_cons] at honly
  have hblanks : qualifyFrom columns start blanks = blanks := by
    refine qualifyFrom_of_not_mem fun k hk hle hlt => ?_
    have hplace := honly k hk hle
    omega
  have hfront : qualifyFrom columns (start + blanks.length + 1) front = front := by
    refine qualifyFrom_of_not_mem fun k hk hle hlt => ?_
    have hplace := honly k hk (by omega)
    omega
  rw [qualifyFrom_append, hblanks, qualifyFrom_cons, if_pos (List.contains_iff_mem.2 hmark), hfront]
  rfl

/-! ### Lines -/

theorem isWord_of_isGap {c : Char} (hc : isGap c = true) : Text.isWord c = false := by
  rw [isGap, Bool.or_eq_true, Bool.or_eq_true, beq_iff_eq, beq_iff_eq, beq_iff_eq] at hc
  rcases hc with (rfl | rfl) | rfl <;> decide

namespace Scanned
variable {line : Nat} {columns : List Nat}

/-- A lexeme is found again in front of a qualified text. -/
theorem exists_lexeme {st next : LexState} {column length : Nat} {c : Char}
    {cs behind : List Char} {lexeme : Lexeme} {token? : Option Token} (hc : isGap c = false)
    (hnext : Lexeme.next? (c :: cs) = some (lexeme, length))
    (hstep : lexemeStep st line column lexeme ((c :: cs).take length)
      ((c :: cs).drop length) = (token?, next, behind)) :
    ∃ front, cs = front ++ behind ∧
      ∀ {blanks behind' : List Char} (m column' : Nat), (∀ b ∈ blanks, isGap b = true) →
        Qualified behind behind' → ∃ (token?' : Option Token) (m' column'' : Nat),
          token?'.map Token.content = token?.map Token.content ∧
          ∀ {tokens' final'}, Scanned line (next.moved m') column'' behind' tokens' final' →
            Scanned line (st.moved m) column' (blanks ++ c :: (front ++ behind'))
              (token?'.toList ++ tokens') final' := by
  obtain ⟨more, hmore, hmoved⟩ := lexemeStep_moved hstep
  obtain ⟨k, rfl⟩ : ∃ k, length = k + 1 := ⟨length - 1, by
    have hpos := Lexeme.pos_of_next? _ hnext
    exact (Nat.sub_add_cancel hpos).symm⟩
  have hall := List.take_append_drop (k + 1) (c :: cs)
  rw [hmore, List.take_succ_cons] at hall
  refine ⟨cs.take k ++ more, ?_, fun {blanks behind'} m column' hblanks hbehind => ?_⟩
  · rw [List.append_assoc]
    exact (List.cons.inj hall).2.symm
  have hqualified : Qualified ((c :: cs).drop (k + 1)) (more ++ behind') :=
    hmore ▸ hbehind.append more
  have hnil : (c :: cs).drop (k + 1) = [] → more ++ behind' = [] := by
    intro hdrop
    rw [hdrop] at hqualified
    exact hqualified.eq_nil
  -- the same lexeme is found, with the same text and the same more to take
  have hnext' := Lexeme.next?_of_replaced hnext hqualified
  have htext := take_of_replaced hnil
  have hrest := drop_of_replaced hnil
  obtain ⟨token?', m', hstep', hcontent⟩ :=
    hmoved m (column' + blanks.length) behind' fun hnone => (hnone ▸ hbehind).eq_nil
  have hform : c :: (cs.take k ++ more ++ behind') =
      (c :: cs).take (k + 1) ++ (more ++ behind') := by
    rw [List.take_succ_cons, List.cons_append, List.append_assoc]
  rw [← hform] at hnext' htext hrest
  exact ⟨token?', m', _, hcontent, fun h =>
    .lexeme hblanks hc hnext' (by rw [htext, hrest]; exact hstep') h⟩

/-- `self.` in front of a name gives two tokens and leaves the rest as it is. -/
theorem self {st final : LexState} {column : Nat} {blanks cs : List Char} {c : Char}
    {tokens : List Token} (hblanks : ∀ b ∈ blanks, isGap b = true) (hc : isNameStart c = true)
    (h : Scanned line st (column + blanks.length + 5) (c :: cs) tokens final) :
    Scanned line st column (blanks ++ 's' :: 'e' :: 'l' :: 'f' :: '.' :: c :: cs)
      (⟨.name, "self".toList, line, column + blanks.length⟩ ::
        ⟨.operator, ".".toList, line, column + blanks.length + 4⟩ :: tokens) final := by
  have hempty : ∀ b ∈ ([] : List Char), isGap b = true := nofun
  have hpoint : lexemeStep st line (column + blanks.length + 4) .operator
      (('.' :: c :: cs).take 1) (('.' :: c :: cs).drop 1) =
      (some ⟨.operator, ".".toList, line, column + blanks.length + 4⟩, st, c :: cs) := by
    have hsame : st.afterOperator "." = st := by
      simp [LexState.afterOperator, openers, closers]
    show (_, st.afterOperator ".", _) = _
    rw [hsame]
    rfl
  have hbehind : column + blanks.length + 4 + ([] ++ '.' :: c :: cs).length - (c :: cs).length =
      column + blanks.length + 5 := by
    simp only [List.nil_append, List.length_cons]
    omega
  -- from behind: the point, which leaves the state as it is, and then the word in front of it
  have hmember : Scanned line st (column + blanks.length + 4) ('.' :: c :: cs)
      (⟨.operator, ".".toList, line, column + blanks.length + 4⟩ :: tokens) final :=
    lexeme hempty (by decide) (Lexeme.next?_point hc cs) hpoint (hbehind ▸ h)
  have hpoint : column + (blanks ++ 's' :: 'e' :: 'l' :: 'f' :: '.' :: c :: cs).length -
      ('.' :: c :: cs).length = column + blanks.length + 4 := by
    simp only [List.length_append, List.length_cons]
    omega
  exact lexeme hblanks (by decide) (Lexeme.next?_self (c :: cs)) rfl (hpoint ▸ hmember)

end Scanned

/-- If `self.` is put in front of the columns of a text, it is scanned into the same tokens, with
    those of `self.` in front of the names at the columns. Other columns do not matter for what is
    open behind it. -/
structure QualifiedScan (columns : List Nat) (line : Nat) (st : LexState) (column : Nat)
    (cs : List Char) (tokens : List Token) (final : LexState) : Prop where
  text : Qualified cs (qualifyFrom columns column cs)
  scanned : ∀ m column' : Nat, ∃ tokens' m',
    Scanned line (st.moved m) column' (qualifyFrom columns column cs) tokens' (final.moved m') ∧
      tokens'.map Token.content = tokens.flatMap fun t => t.expansion (t.isNameAt columns)

namespace QualifiedScan
variable {line : Nat} {columns : List Nat}

theorem stray {st final : LexState} {column : Nat} {c d : Char} {cs blanks ds : List Char}
    {tokens : List Token} (hblanks : ∀ b ∈ blanks, isGap b = true) (hd : isGap d = false)
    (hsplit : c :: cs = blanks ++ d :: ds) (hnext : Lexeme.next? (d :: ds) = none)
    (hhere : column ∉ columns)
    (rest : QualifiedScan columns line st (column + 1) cs tokens final) :
    QualifiedScan columns line st column (c :: cs) (⟨.stray, [c], line, column⟩ :: tokens)
      final := by
  have hkept : qualifyFrom columns column (c :: cs) = c :: qualifyFrom columns (column + 1) cs := by
    rw [qualifyFrom_cons, Bool.eq_false_iff.2 fun hin => hhere (List.contains_iff_mem.1 hin)]
    rfl
  have htext : Qualified (c :: cs) (c :: qualifyFrom columns (column + 1) cs) := .keep c rest.text
  constructor
  · rw [hkept]
    exact htext
  · intro m column'
    obtain ⟨tokens', m', hrest, hcontents⟩ := rest.scanned m (column' + 1)
    -- the character that begins no lexeme is kept, since it is no part of a word
    rw [hsplit] at htext
    obtain ⟨after, hafter, hbehind⟩ := htext.of_append fun b hb => isWord_of_isGap (hblanks b hb)
    obtain ⟨ds', rfl, hds⟩ := hbehind.of_cons (Lexeme.isWord_of_eq_none hnext)
    have hnone := Lexeme.next?_eq_none hnext hds
    rw [hkept]
    refine ⟨_, m', .stray hblanks hd hafter hnone hrest, ?_⟩
    rw [List.map_cons, hcontents]
    rfl

theorem append_in_front {c : Char} {blanks front behind : List Char} :
    blanks ++ c :: (front ++ behind) = (blanks ++ c :: front) ++ behind := by
  rw [List.append_assoc, List.cons_append]

theorem length_in_front {column : Nat} {c : Char} {blanks front behind : List Char} :
    column + (blanks ++ c :: (front ++ behind)).length - behind.length =
      column + (blanks ++ c :: front).length := by
  simp only [List.length_append, List.length_cons]
  omega

section lexeme
variable {st next final : LexState} {column length : Nat} {c : Char}
  {cs blanks behind : List Char} {lexeme : Lexeme} {token? : Option Token} {tokens : List Token}
  (hblanks : ∀ b ∈ blanks, isGap b = true) (hc : isGap c = false)
  (hnext : Lexeme.next? (c :: cs) = some (lexeme, length))
  (hstep : lexemeStep st line (column + blanks.length) lexeme ((c :: cs).take length)
    ((c :: cs).drop length) = (token?, next, behind))
  (rest : QualifiedScan columns line next
    (column + (blanks ++ c :: cs).length - behind.length) behind tokens final)
include hblanks hc hnext hstep rest

/-- A lexeme without an insertion in front of it. -/
theorem keep (hlater : ∀ k ∈ columns, column ≤ k →
      column + (blanks ++ c :: cs).length - behind.length ≤ k) :
    QualifiedScan columns line st column (blanks ++ c :: cs) (token?.toList ++ tokens) final := by
  obtain ⟨front, rfl, hfound⟩ := Scanned.exists_lexeme hc hnext hstep
  rw [length_in_front] at rest hlater
  have hkept : qualifyFrom columns column (blanks ++ c :: (front ++ behind)) =
      blanks ++ c :: (front ++
        qualifyFrom columns (column + (blanks ++ c :: front).length) behind) := by
    rw [append_in_front, qualifyFrom_append, qualifyFrom_of_not_mem, List.append_assoc,
      List.cons_append]
    intro k hk hle hlt
    have hplace := hlater k hk hle
    omega
  constructor
  · rw [hkept]
    exact .append blanks (.keep c (rest.text.append front))
  · intro m column'
    obtain ⟨token?', m', column'', hcontent, hlexeme⟩ := hfound m column' hblanks rest.text
    obtain ⟨tokens', m'', hrest, hcontents⟩ := rest.scanned m' column''
    rw [hkept]
    refine ⟨_, m'', hlexeme hrest, ?_⟩
    -- the token stands in front of all columns that are left
    have htoken : token?.toList.flatMap (fun t => t.expansion (t.isNameAt columns)) =
        token?.toList.map Token.content := by
      refine flatMap_expansion_of_false fun t ht => ?_
      rw [Option.mem_toList] at ht
      have hcolumn := (of_lexemeStep ((congrArg Prod.fst hstep).trans ht)).2.1
      have hnot : columns.contains t.column = false := by
        rw [← Bool.not_eq_true, List.contains_iff_mem]
        intro hin
        have hplace := hlater _ hin (by omega)
        simp only [List.length_append, List.length_cons] at hplace
        omega
      rw [Token.isNameAt, hnot, Bool.and_false]
    have hsame : token?'.toList.map Token.content = token?.toList.map Token.content := by
      rw [← Option.toList_map, ← Option.toList_map, hcontent]
    rw [List.map_append, List.flatMap_append, hcontents, htoken, hsame]

/-- A name with `self.` in front of it. -/
theorem insert (hmark : column + blanks.length ∈ columns) {t : Token} (ht : token? = some t)
    (hname : t.kind = .name)
    (hlater : ∀ k ∈ columns, column ≤ k → k = column + blanks.length ∨
      column + (blanks ++ c :: cs).length - behind.length ≤ k) :
    QualifiedScan columns line st column (blanks ++ c :: cs) (token?.toList ++ tokens) final := by
  subst ht
  obtain ⟨-, hcolumn, hword⟩ := of_lexemeStep (congrArg Prod.fst hstep)
  obtain ⟨rfl, -, hkind⟩ := hword hname
  have hstart : isNameStart c = true := isNameStart_of_next? hnext hkind
  have hempty : ∀ b ∈ ([] : List Char), isGap b = true := nofun
  obtain ⟨front, rfl, hfound⟩ := Scanned.exists_lexeme hc hnext hstep
  rw [length_in_front] at rest hlater
  have hkept : qualifyFrom columns column (blanks ++ c :: (front ++ behind)) =
      blanks ++ 's' :: 'e' :: 'l' :: 'f' :: '.' :: c :: (front ++
        qualifyFrom columns (column + (blanks ++ c :: front).length) behind) := by
    rw [append_in_front, qualifyFrom_append, qualifyFrom_of_mem hmark hlater, List.append_assoc]
    rfl
  constructor
  · rw [hkept]
    exact .append blanks (.insert hstart (rest.text.append front))
  · intro m column'
    -- `self`, the point and the name are three lexemes, the last of them without blanks in front
    obtain ⟨token?', m', column'', hcontent, hlexeme⟩ :=
      hfound m (column' + blanks.length + 5) hempty rest.text
    obtain ⟨tokens', m'', hrest, hcontents⟩ := rest.scanned m' column''
    rw [hkept]
    refine ⟨_, m'', .self hblanks hstart (hlexeme hrest), ?_⟩
    have hat : t.isNameAt columns = true := by
      rw [Token.isNameAt, hname, hcolumn, List.contains_iff_mem.2 hmark]
      rfl
    obtain ⟨t', rfl, hsame⟩ := Option.map_eq_some_iff.1 hcontent
    show (TokenKind.name, "self".toList) :: (TokenKind.operator, ".".toList) :: t'.content ::
      tokens'.map Token.content = t.expansion (t.isNameAt columns) ++ tokens.flatMap _
    rw [hat, hsame, hcontents]
    rfl

end lexeme

end QualifiedScan

/-- If `self.` is put in front of names of the rest of a line only, its tokens stay the same, with
    those of `self.` in front of these names. -/
theorem Scanned.qualified {line : Nat} {columns : List Nat} {st final : LexState} {column : Nat}
    {cs : List Char} {tokens : List Token} (h : Scanned line st column cs tokens final)
    (hmarks : ∀ k ∈ columns, column ≤ k → ∃ t ∈ tokens, t.kind = .name ∧ t.column = k) :
    QualifiedScan columns line st column cs tokens final := by
  induction h with
  | @blank st column blanks hblanks =>
    have hkept : qualifyFrom columns column blanks = blanks := by
      refine qualifyFrom_of_not_mem fun k hk hle _ => ?_
      obtain ⟨t, ht, -⟩ := hmarks k hk hle
      exact absurd ht List.not_mem_nil
    constructor
    · rw [hkept]
      exact .refl blanks
    · intro m column'
      rw [hkept]
      exact ⟨[], m, .blank hblanks, rfl⟩
  | @stray st final column c d cs blanks ds tokens hblanks hd hsplit hnext rest ih =>
    have hlater : ∀ k ∈ columns, column ≤ k → ∃ t ∈ tokens, t.kind = .name ∧ t.column = k := by
      intro k hk hle
      obtain ⟨t, ht, hname, hcolumn⟩ := hmarks k hk hle
      rcases List.mem_cons.1 ht with rfl | ht
      · exact absurd hname nofun
      · exact ⟨t, ht, hname, hcolumn⟩
    refine .stray hblanks hd hsplit hnext ?_ (ih fun k hk hle => hlater k hk (by omega))
    intro hmem
    obtain ⟨t, ht, -, hcolumn⟩ := hlater column hmem (Nat.le_refl _)
    have hle := (rest.mem_tokens ht).2
    omega
  | @lexeme st next final column length c cs blanks behind lexeme token? tokens hblanks hc hnext
      hstep rest ih =>
    -- a column of the lexeme or of the blanks can only be that of the token, which then is a name
    have hsplit : ∀ k ∈ columns, column ≤ k →
        (k = column + blanks.length ∧ ∃ t, token? = some t ∧ t.kind = .name) ∨
        (column + (blanks ++ c :: cs).length - behind.length ≤ k ∧
          ∃ t ∈ tokens, t.kind = .name ∧ t.column = k) := by
      intro k hk hle
      obtain ⟨t, ht, hname, rfl⟩ := hmarks k hk hle
      rcases List.mem_append.1 ht with ht | ht
      · rw [Option.mem_toList] at ht
        exact Or.inl ⟨(of_lexemeStep ((congrArg Prod.fst hstep).trans ht)).2.1, t, ht, hname⟩
      · exact Or.inr ⟨(rest.mem_tokens ht).2, t, ht, hname, rfl⟩
    have hbehind := length_behind hnext hstep
    have hrest := ih fun k hk hle => by
      rw [List.length_append] at hle
      rcases hsplit k hk (by omega) with ⟨rfl, -⟩ | ⟨-, hlater⟩
      · omega
      · exact hlater
    by_cases hmark : column + blanks.length ∈ columns
    · rcases hsplit _ hmark (Nat.le_add_right _ _) with ⟨-, t, ht, hname⟩ | ⟨hle, -⟩
      · exact .insert hblanks hc hnext hstep hrest hmark ht hname fun k hk hle =>
          (hsplit k hk hle).imp And.left And.left
      · rw [List.length_append] at hle
        omega
    · refine .keep hblanks hc hnext hstep hrest fun k hk hle => ?_
      rcases hsplit k hk hle with ⟨rfl, -⟩ | ⟨hlater, -⟩
      · exact absurd hk hmark
      · exact hlater

end LayerGraph.Flow
