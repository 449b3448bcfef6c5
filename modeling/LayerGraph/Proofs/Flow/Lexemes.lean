import LayerGraph.Proofs.Flow.Numbers
import LayerGraph.Proofs.Flow.Strings

/-! # Lexemes in qualified text

    A lexeme that ends in front of all insertions is the same lexeme of the qualified text
    (`next?_of_replaced`), and where none begins, none begins there (`next?_eq_none`). What `self.`
    itself is read as, is said at the end.
-/

namespace LayerGraph.Flow

theorem isWord_of_isDecimal {c : Char} (h : isDecimal c = true) : Text.isWord c = true := by
  rw [isDecimal, Bool.and_eq_true, decide_eq_true_eq, decide_eq_true_eq] at h
  have hdigit : c.isDigit = true := by
    simp [Char.isDigit]
    exact h
  have hle : c.toNat ≤ 57 := h.2
  rw [Text.isWord, if_pos (by omega), Char.isAlphanum, hdigit, Bool.or_true]
  rfl

/-! ### Comments, ends of lines and operators -/

theorem commentLength_of_ne {c : Char} (hc : c ≠ '#') (cs : List Char) :
    commentLength (c :: cs) = 0 := by
  rw [commentLength.eq_def]
  split
  · next h => exact absurd (List.cons.inj h).1 hc
  · rfl

/-- A comment that ends in front of all insertions keeps its length. -/
theorem commentLength_qualified {c : Char} {x b b' : List Char} (hb : Qualified b b')
    (h : commentLength (c :: x ++ b) = 0 ∨ commentLength (c :: x ++ b) = x.length + 1) :
    commentLength (c :: x ++ b') = commentLength (c :: x ++ b) := by
  by_cases hc : c = '#'
  · subst hc
    -- the comment takes exactly what stands in front of the insertions
    have hlength : ((x ++ b).takeWhile fun c => c != '\r' && c != '\n').length = x.length := by
      rcases h with h | h
      · exact absurd h (Nat.succ_ne_zero _)
      · exact Nat.add_right_cancel h
    have hrun : ((x ++ b).takeWhile fun c => c != '\r' && c != '\n') = x := by
      have hall := List.takeWhile_append_dropWhile
        (p := fun c => c != '\r' && c != '\n') (l := x ++ b)
      exact (List.append_inj hall hlength).1
    have hname : ∀ c, isNameStart c = true → (c != '\r' && c != '\n') = true := by
      intro c hc
      rw [Bool.and_eq_true, bne_iff_ne, bne_iff_ne]
      exact ⟨ne_of_isNameStart hc (by decide), ne_of_isNameStart hc (by decide)⟩
    show ((x ++ b').takeWhile _).length + 1 = ((x ++ b).takeWhile _).length + 1
    rw [hb.takeWhile_eq hname hrun, hrun]
  · rw [List.cons_append, List.cons_append, commentLength_of_ne hc, commentLength_of_ne hc]

theorem lineEndLength_eq (cs : List Char) :
    lineEndLength cs =
      if ['\n'].isPrefixOf cs then 1 else if ['\r', '\n'].isPrefixOf cs then 2 else 0 := by
  rw [lineEndLength.eq_def]
  split
  · rfl
  · rfl
  · next hfeed hreturn =>
    rw [if_neg, if_neg]
    · intro h
      obtain ⟨rest, rfl⟩ := List.isPrefixOf_iff_prefix.1 h
      exact hreturn rest rfl
    · intro h
      obtain ⟨rest, rfl⟩ := List.isPrefixOf_iff_prefix.1 h
      exact hfeed rest rfl

theorem lineEndLength_qualified {cs cs' : List Char} (h : Qualified cs cs') :
    lineEndLength cs' = lineEndLength cs := by
  have hfeed : ∀ c ∈ ['\n'], Text.isWord c = false := List.forall_mem_singleton.2 (by decide)
  have hreturn : ∀ c ∈ ['\r', '\n'], Text.isWord c = false :=
    List.forall_mem_cons.2 ⟨by decide, hfeed⟩
  rw [lineEndLength_eq, lineEndLength_eq, h.isPrefixOf_eq hfeed, h.isPrefixOf_eq hreturn]

theorem continuationLength_of_ne {c : Char} (hc : c ≠ '\\') (cs : List Char) :
    continuationLength (c :: cs) = 0 := by
  rw [continuationLength.eq_def]
  split
  · next h => exact absurd (List.cons.inj h).1 hc
  · rfl

theorem continuationLength_qualified {c : Char} {cs cs' : List Char} (h : Qualified cs cs') :
    continuationLength (c :: cs') = continuationLength (c :: cs) := by
  by_cases hc : c = '\\'
  · subst hc
    rw [continuationLength, continuationLength, lineEndLength_qualified h]
  · rw [continuationLength_of_ne hc, continuationLength_of_ne hc]

theorem isWord_of_mem_operators :
    ∀ op ∈ operators, op.toList ≠ [] ∧ ∀ c ∈ op.toList, Text.isWord c = false := by
  have hall : ∀ op ∈ operators,
      op.toList ≠ [] ∧ (op.toList.all fun c => !Text.isWord c) = true := by decide
  intro op hop
  refine ⟨(hall op hop).1, fun c hc => ?_⟩
  have hno := List.all_eq_true.1 (hall op hop).2 c hc
  rwa [Bool.not_eq_true'] at hno

/-- Which operator begins a text depends on which of them do. -/
theorem operatorLength_congr {cs cs' : List Char}
    (h : ∀ op ∈ operators, op.toList.isPrefixOf cs' = op.toList.isPrefixOf cs) :
    operatorLength cs' = operatorLength cs := by
  have hfind : ∀ ops : List String,
      (∀ op ∈ ops, op.toList.isPrefixOf cs' = op.toList.isPrefixOf cs) →
      (ops.find? fun op => op.toList.isPrefixOf cs') =
        ops.find? fun op => op.toList.isPrefixOf cs := by
    intro ops
    induction ops with
    | nil => exact fun _ => rfl
    | cons op ops ih =>
      intro hops
      rw [List.find?_cons, List.find?_cons, hops op List.mem_cons_self,
        ih fun op hop => hops op (List.mem_cons_of_mem _ hop)]
  rw [operatorLength, operatorLength, hfind operators h]

theorem operatorLength_qualified {cs cs' : List Char} (h : Qualified cs cs') :
    operatorLength cs' = operatorLength cs :=
  operatorLength_congr fun op hop => h.isPrefixOf_eq (isWord_of_mem_operators op hop).2

/-- A text begins with no operator if none begins with its first character. -/
theorem operatorLength_eq_zero {c : Char} (hc : ∀ op ∈ operators, op.toList.head? ≠ some c)
    (cs : List Char) : operatorLength (c :: cs) = 0 := by
  have hnone : (operators.find? fun op => op.toList.isPrefixOf (c :: cs)) = none := by
    rw [List.find?_eq_none]
    intro op hop hbegins
    cases hchars : op.toList with
    | nil => exact (isWord_of_mem_operators op hop).1 hchars
    | cons d ds =>
      rw [hchars, List.isPrefixOf_cons_cons, Bool.and_eq_true, beq_iff_eq] at hbegins
      exact hc op hop (by rw [hchars, hbegins.1]; rfl)
  rw [operatorLength, hnone]
  rfl

theorem operatorLength_of_isWord {c : Char} (hc : Text.isWord c = true) (cs : List Char) :
    operatorLength (c :: cs) = 0 := by
  refine operatorLength_eq_zero (fun op hop hhead => ?_) cs
  have hno := (isWord_of_mem_operators op hop).2 c (List.mem_of_mem_head? hhead)
  exact absurd (hc.symm.trans hno) nofun

theorem lineEndLength_of_isWord {c : Char} (hc : Text.isWord c = true) (cs : List Char) :
    lineEndLength (c :: cs) = 0 := by
  have hfeed : '\n' ≠ c := (ne_of_isWord hc (by decide)).symm
  have hreturn : '\r' ≠ c := (ne_of_isWord hc (by decide)).symm
  rw [lineEndLength_eq, List.isPrefixOf_cons_cons, List.isPrefixOf_cons_cons,
    beq_false_of_ne hfeed, beq_false_of_ne hreturn]
  rfl

/-- Of the operators tried before the point, only the dots begin with one. -/
theorem operatorLength_point {c : Char} (hc : isNameStart c = true) (cs : List Char) :
    operatorLength ('.' :: c :: cs) = 1 := by
  have hdots : ∀ op ∈ operators.take 29,
      op.toList.head? = some '.' → op.toList[1]? = some '.' := by decide
  have hfind : (operators.find? fun op => op.toList.isPrefixOf ('.' :: c :: cs)) = some "." := by
    refine List.find?_eq_some_iff_append.2
      ⟨by simp, operators.take 29, operators.drop 30, by decide, ?_⟩
    -- an operator before it begins otherwise, or with a second point, which no name does
    intro op hop
    rw [Bool.not_eq_true']
    rw [← Bool.not_eq_true]
    intro hbegins
    have hne := (isWord_of_mem_operators op (List.mem_of_mem_take hop)).1
    have hpoint := hdots op hop
    match hchars : op.toList with
    | [] => exact hne hchars
    | [d] =>
      rw [hchars] at hbegins hpoint
      rw [List.isPrefixOf_cons_cons, Bool.and_eq_true, beq_iff_eq] at hbegins
      exact absurd (hpoint (congrArg some hbegins.1)) nofun
    | d :: e :: ds =>
      rw [hchars] at hbegins hpoint
      rw [List.isPrefixOf_cons_cons, List.isPrefixOf_cons_cons, Bool.and_eq_true,
        Bool.and_eq_true, beq_iff_eq, beq_iff_eq] at hbegins
      have he : e = '.' := Option.some.inj (hpoint (congrArg some hbegins.1))
      exact ne_of_isNameStart hc (by decide) (hbegins.2.1.symm.trans he)
  rw [operatorLength, hfind]
  rfl

namespace Lexeme

/-! ### Kinds of lexemes -/

theorem ofLength_orElse (kind : Lexeme) (n : Nat) (later : Option (Lexeme × Nat)) :
    (ofLength kind n <|> later) = if n = 0 then later else some (kind, n) := by
  unfold ofLength
  split <;> rfl

/-- A text is a word, which may be empty, and what stands behind it. -/
theorem exists_word (cs : List Char) :
    ∃ word rest, cs = word ++ rest ∧ (∀ c ∈ word, Text.isWord c = true) ∧
      ∀ c ∈ rest.head?, Text.isWord c = false := by
  refine ⟨cs.takeWhile Text.isWord, cs.dropWhile Text.isWord,
    List.takeWhile_append_dropWhile.symm, List.all_eq_true.1 List.all_takeWhile, ?_⟩
  intro c hc
  have hhead := List.head?_dropWhile_not Text.isWord cs
  rw [Option.mem_def.1 hc] at hhead
  simpa using hhead

theorem markLength?_of_isDecimal {c : Char} (hc : isDecimal c = true) (cs : List Char) :
    markLength? (c :: cs) = none := by
  have hmarks : ∀ mark ∈ stringMarks.map String.toList,
      (mark.all fun d => !isDecimal d) = true := by decide
  -- digits have no case, and none of the marks has a digit
  have hlower : c.toLower = c := by
    unfold Char.toLower
    rw [dif_neg]
    rintro ⟨hlow, -⟩
    rw [isDecimal, Bool.and_eq_true, decide_eq_true_eq, decide_eq_true_eq] at hc
    have hhigh : c.toNat ≤ 57 := hc.2
    have hlow : 65 ≤ c.toNat := hlow
    omega
  have hno (word : List Char) : isMark (c :: word) = false := by
    rw [← Bool.not_eq_true]
    intro hmark
    have hnone := List.all_eq_true.1 (hmarks _ (mem_of_isMark hmark))
    have hdecimal := hnone c.toLower List.mem_cons_self
    rw [hlower, hc] at hdecimal
    exact absurd hdecimal nofun
  obtain ⟨word, rest, rfl, hword, hrest⟩ := exists_word cs
  rw [← List.cons_append, markLength?_append (List.forall_mem_cons.2
    ⟨isWord_of_isDecimal hc, hword⟩) hrest, hno]
  rfl

/-- What begins with a digit is a number. -/
theorem next?_of_isDecimal {c : Char} (hc : isDecimal c = true) (cs : List Char) :
    next? (c :: cs) = some (.number, numberLength (c :: cs)) := by
  have hword := isWord_of_isDecimal hc
  have hnumber : numberLength (c :: cs) ≠ 0 := by
    rw [Ne, numberLength_eq_zero_iff, hc]
    exact fun h => absurd h.1 nofun
  rw [next?, ofLength_orElse,
    if_pos (continuationLength_of_ne (ne_of_isWord hword (by decide)) cs),
    ofLength_orElse, if_pos (commentLength_of_ne (ne_of_isWord hword (by decide)) cs), tripleAt,
    markLength?_of_isDecimal hc, ofLength_orElse, if_neg hnumber]
  rfl

/-- What begins with another character of a word is a string, or the word. -/
theorem next?_of_isWord {c : Char} {word rest : List Char}
    (hword : ∀ d ∈ c :: word, Text.isWord d = true) (hc : isDecimal c = false)
    (hrest : ∀ d ∈ rest.head?, Text.isWord d = false) :
    next? (c :: word ++ rest) =
      (tripleAt (c :: word ++ rest) <|> stringAt (c :: word ++ rest) <|>
        some (.word, word.length + 1)) := by
  have hyes := hword c List.mem_cons_self
  have hne {d : Char} (hd : Text.isWord d = false) : c ≠ d := ne_of_isWord hyes hd
  have hnumber : numberLength (c :: (word ++ rest)) = 0 := by
    rw [numberLength_eq_zero_iff]
    exact ⟨hc, Or.inl (hne (by decide))⟩
  have hlength : wordLength (c :: word ++ rest) = word.length + 1 := by
    rw [wordLength, List.takeWhile_append_of_pos hword]
    cases rest with
    | nil => rw [List.takeWhile_nil, List.append_nil, List.length_cons]
    | cons d rest =>
      rw [List.takeWhile_cons_of_neg (by simp [hrest d rfl]), List.append_nil, List.length_cons]
  -- neither a sign nor a digit stands in front, so strings and the word are left
  rw [next?, hlength, List.cons_append, ofLength_orElse,
    if_pos (continuationLength_of_ne (hne (by decide)) _), ofLength_orElse,
    if_pos (commentLength_of_ne (hne (by decide)) _), hnumber, lineEndLength_of_isWord hyes,
    operatorLength_of_isWord hyes, ofLength_orElse, if_pos rfl, ofLength_orElse, if_pos rfl,
    ofLength_orElse, if_pos rfl]
  rfl

/-- What holds of both values holds of the chosen one. -/
theorem of_orElse {α : Type} {P : α → Prop} {first later : Option α}
    (hfirst : ∀ a, first = some a → P a) (hlater : ∀ a, later = some a → P a) :
    ∀ a, (first <|> later) = some a → P a := by
  cases first with
  | none => exact hlater
  | some b => exact hfirst

/-- What begins with a character of a word, but with no digit, holds the whole word. -/
theorem exists_of_isWord {c : Char} {word rest : List Char}
    (hword : ∀ d ∈ c :: word, Text.isWord d = true) (hc : isDecimal c = false)
    (hrest : ∀ d ∈ rest.head?, Text.isWord d = false) :
    ∃ found, next? (c :: word ++ rest) = some found ∧ word.length < found.2 := by
  have hlt : ∀ found, next? (c :: word ++ rest) = some found → word.length < found.2 := by
    rw [next?_of_isWord hword hc hrest]
    refine of_orElse (fun _ h => Nat.lt_of_succ_lt (lt_of_tripleAt hword hrest h)) ?_
    refine of_orElse (fun _ h => Nat.lt_of_succ_lt (lt_of_stringAt hword hrest h)) ?_
    intro found hfound
    rw [← Option.some.inj hfound]
    exact Nat.lt_succ_self _
  obtain ⟨found, hfound⟩ : ∃ found, next? (c :: word ++ rest) = some found := by
    rw [next?_of_isWord hword hc hrest]
    cases tripleAt (c :: word ++ rest) <;> cases stringAt (c :: word ++ rest) <;> exact ⟨_, rfl⟩
  exact ⟨found, hfound, hlt found hfound⟩

theorem next?_of_not_isWord {c : Char} (hc : Text.isWord c = false) (cs : List Char) :
    next? (c :: cs) =
      (ofLength continuation (continuationLength (c :: cs))
        <|> ofLength comment (commentLength (c :: cs))
        <|> tripleAt (c :: cs)
        <|> ofLength number (numberLength (c :: cs))
        <|> ofLength lineEnd (lineEndLength (c :: cs))
        <|> ofLength operator (operatorLength (c :: cs))
        <|> stringAt (c :: cs)) := by
  have hword : wordLength (c :: cs) = 0 := by
    rw [wordLength, List.takeWhile_cons_of_neg (by simp [hc])]
    rfl
  have hnone : ofLength word 0 = none := rfl
  rw [next?, hword, hnone]
  simp only [Option.orElse_eq_orElse, Option.orElse_eq_or, Option.or_none]

/-! ### Lexemes and insertions -/

/-- Two choices agree if their parts do, as far as the chosen value allows. -/
theorem orElse_congr {α : Type} {P : α → Prop} {first first' later later' : Option α}
    (hfirst : (∀ a, first = some a → P a) → first' = first)
    (hlater : (∀ a, later = some a → P a) → later' = later)
    (h : ∀ a, (first <|> later) = some a → P a) :
    (first' <|> later') = (first <|> later) := by
  cases first with
  | none =>
    rw [hfirst nofun]
    exact hlater h
  | some a =>
    rw [hfirst h]
    rfl

theorem ofLength_congr {kind : Lexeme} {n n' length : Nat}
    (hn : n = 0 ∨ n = length → n' = n)
    (h : ∀ a, ofLength kind n = some a → a.2 = length) :
    ofLength kind n' = ofLength kind n := by
  by_cases hzero : n = 0
  · rw [hn (Or.inl hzero)]
  · rw [hn (Or.inr (h (kind, n) (if_neg hzero)))]

/-- A string with its letters, or a word, that ends in front of all insertions. -/
theorem next?_qualified_of_isWord {c : Char} (hc : Text.isWord c = true)
    (hdecimal : isDecimal c = false) {x b b' : List Char} (hb : Qualified b b')
    (h : ∀ found, next? (c :: x ++ b) = some found → found.2 = x.length + 1) :
    next? (c :: x ++ b') = next? (c :: x ++ b) := by
  obtain ⟨word, rest, hsplit, hrun, hrest⟩ := exists_word (x ++ b)
  have hword : ∀ d ∈ c :: word, Text.isWord d = true := List.forall_mem_cons.2 ⟨hc, hrun⟩
  rw [List.cons_append, hsplit, ← List.cons_append] at h
  -- the lexeme holds the whole word, so nothing is inserted into that
  have hle : word.length ≤ x.length := by
    obtain ⟨found, hfound, hlt⟩ := exists_of_isWord hword hdecimal hrest
    rw [h found hfound] at hlt
    exact Nat.le_of_lt_succ hlt
  obtain ⟨more, rfl, rfl⟩ : ∃ more, x = word ++ more ∧ rest = more ++ b := by
    rcases List.append_eq_append_iff.1 hsplit with ⟨more, rfl, rfl⟩ | ⟨more, rfl, rfl⟩
    · rw [List.length_append] at hle
      obtain rfl := List.eq_nil_of_length_eq_zero (l := more) (by omega)
      exact ⟨[], by simp, rfl⟩
    · exact ⟨more, rfl, rfl⟩
  have hqualified : Qualified (more ++ b) (more ++ b') := hb.append more
  have hrest' : ∀ d ∈ (more ++ b').head?, Text.isWord d = false := by
    rw [hqualified.head?_eq hrest]
    exact hrest
  rw [next?_of_isWord hword hdecimal hrest] at h
  rw [← List.cons_append, List.append_assoc, List.append_assoc,
    next?_of_isWord hword hdecimal hrest, next?_of_isWord hword hdecimal hrest']
  revert h
  -- three quotes, then a string, then the word itself
  refine orElse_congr (fun _ => tripleAt_qualified hword hqualified hrest) ?_
  refine orElse_congr (fun h => ?_) (fun _ => rfl)
  cases more with
  | nil =>
    -- the lexeme is the word, and no string begins with it
    cases b with
    | nil =>
      cases hb
      rfl
    | cons quote b =>
      obtain ⟨b', rfl, hsame⟩ := hb.of_cons (hrest quote rfl)
      refine stringAt_qualified (x := []) hword (hrest quote rfl) hsame fun found hfound => ?_
      have hlt := lt_of_stringAt hword hrest hfound
      have hlength := h found hfound
      simp at hlt hlength
      omega
  | cons quote more =>
    refine stringAt_qualified hword (hrest quote rfl) hb fun found hfound => ?_
    rw [h found hfound]
    simp
    omega

/-- A lexeme that ends in front of all insertions, if there is one, is the same lexeme of the
    qualified text. -/
theorem next?_qualified {c : Char} {x b b' : List Char} (hb : Qualified b b')
    (h : ∀ found, next? (c :: x ++ b) = some found → found.2 = x.length + 1) :
    next? (c :: x ++ b') = next? (c :: x ++ b) := by
  have hall : Qualified (x ++ b) (x ++ b') := hb.append x
  have hnumber (hn : numberLength (c :: x ++ b) = 0 ∨
      numberLength (c :: x ++ b) = x.length + 1) :
      numberLength (c :: x ++ b') = numberLength (c :: x ++ b) := by
    rcases hn with hn | hn
    · rw [hn, List.cons_append, numberLength_eq_zero hall hn]
    · rw [hn, numberLength_qualified hb hn]
  -- the first character says which kinds of lexemes can begin here
  by_cases hdecimal : isDecimal c = true
  · rw [List.cons_append, next?_of_isDecimal hdecimal] at h
    have hlength := h _ rfl
    rw [List.cons_append, List.cons_append, next?_of_isDecimal hdecimal,
      next?_of_isDecimal hdecimal]
    have hsame := hnumber (Or.inr hlength)
    rw [List.cons_append, List.cons_append] at hsame
    rw [hsame]
  have hdecimal : isDecimal c = false := Bool.eq_false_iff.2 hdecimal
  by_cases hc : Text.isWord c = true
  · exact next?_qualified_of_isWord hc hdecimal hb h
  · have hc : Text.isWord c = false := Bool.eq_false_iff.2 hc
    have hempty : ∀ d ∈ ([] : List Char), Text.isWord d = true := nofun
    simp only [List.cons_append, next?_of_not_isWord hc] at h ⊢
    revert h
    -- all kinds but words, in the order in which they are tried
    refine orElse_congr (ofLength_congr fun _ => continuationLength_qualified hall) ?_
    refine orElse_congr (ofLength_congr (commentLength_qualified hb)) ?_
    refine orElse_congr (fun _ => tripleAt_qualified hempty (.keep c hall) (by simpa using hc)) ?_
    refine orElse_congr (ofLength_congr hnumber) ?_
    refine orElse_congr (ofLength_congr fun _ => lineEndLength_qualified (.keep c hall)) ?_
    refine orElse_congr (ofLength_congr fun _ => operatorLength_qualified (.keep c hall)) ?_
    intro h
    refine stringAt_qualified hempty hc hb fun found hfound => ?_
    rw [h found hfound]
    simp
    omega

/-! ### Words -/

theorem of_ofLength {kind : Lexeme} {n : Nat} (found : Lexeme × Nat)
    (h : ofLength kind n = some found) : found.1 = kind ∧ 0 < found.2 := by
  unfold ofLength at h
  split at h
  · exact absurd h nofun
  · obtain rfl := Option.some.inj h
    exact ⟨rfl, by omega⟩

theorem of_tripleAt {cs : List Char} (found : Lexeme × Nat) (h : tripleAt cs = some found) :
    found.1 ≠ .word ∧ 0 < found.2 := by
  unfold tripleAt at h
  split at h
  · exact absurd h nofun
  split at h
  · split at h
    · obtain rfl := Option.some.inj h
      exact ⟨by simp, by simp⟩
    · exact absurd h nofun
  · exact absurd h nofun

theorem of_stringAt {cs : List Char} (found : Lexeme × Nat) (h : stringAt cs = some found) :
    found.1 ≠ .word ∧ 0 < found.2 := by
  unfold stringAt at h
  split at h
  · exact absurd h nofun
  split at h
  · exact absurd h nofun
  · obtain ⟨⟨n, joined⟩, -, rfl⟩ := Option.map_eq_some_iff.1 h
    refine ⟨?_, Nat.lt_of_lt_of_le (Nat.succ_pos _) (Nat.le_add_right _ n)⟩
    cases joined <;> simp

/-- A lexeme has a character. -/
theorem pos_of_next? {cs : List Char} (found : Lexeme × Nat) (h : next? cs = some found) :
    0 < found.2 := by
  have hlength {kind : Lexeme} {n : Nat} (found : Lexeme × Nat)
      (h : ofLength kind n = some found) : 0 < found.2 := (of_ofLength found h).2
  unfold next? at h
  revert found
  exact of_orElse hlength <| of_orElse hlength <|
    of_orElse (fun found h => (of_tripleAt found h).2) <| of_orElse hlength <|
    of_orElse hlength <| of_orElse hlength <|
    of_orElse (fun found h => (of_stringAt found h).2) hlength

/-- Insertions behind a lexeme do not change it. -/
theorem next?_of_replaced {cs b : List Char} {kind : Lexeme} {n : Nat}
    (h : next? cs = some (kind, n)) (hb : Qualified (cs.drop n) b) :
    next? (cs.take n ++ b) = some (kind, n) := by
  by_cases hle : n ≤ cs.length
  · have hpos : 0 < n := pos_of_next? _ h
    obtain ⟨m, rfl⟩ : ∃ m, n = m + 1 := ⟨n - 1, by omega⟩
    cases cs with
    | nil => exact absurd hle (Nat.not_succ_le_zero m)
    | cons c cs =>
      rw [List.take_succ_cons]
      rw [List.drop_succ_cons] at hb
      have hlength : (cs.take m).length = m := List.length_take_of_le (Nat.le_of_succ_le_succ hle)
      have hall : c :: cs.take m ++ cs.drop m = c :: cs := by
        rw [List.cons_append, List.take_append_drop]
      -- the lexeme found is the only one, and it ends where the insertions begin
      rw [next?_qualified hb, hall, h]
      intro found hfound
      rw [hall, h] at hfound
      rw [← Option.some.inj hfound, hlength]
  · rw [List.drop_eq_nil_of_le (by omega)] at hb
    rw [hb.eq_nil, List.append_nil, List.take_of_length_le (by omega), h]

/-- Where no lexeme begins, none begins in the qualified text. -/
theorem next?_eq_none {c : Char} {cs cs' : List Char} (h : next? (c :: cs) = none)
    (hcs : Qualified cs cs') : next? (c :: cs') = none := by
  have hsame := next?_qualified (c := c) (x := []) hcs
  rw [List.cons_append, List.nil_append, List.cons_append, List.nil_append, h] at hsame
  exact hsame nofun

/-- Where no lexeme begins, no word does. -/
theorem isWord_of_eq_none {c : Char} {cs : List Char} (h : next? (c :: cs) = none) :
    Text.isWord c = false := by
  rw [← Bool.not_eq_true]
  intro hc
  by_cases hdecimal : isDecimal c = true
  · rw [next?_of_isDecimal hdecimal] at h
    exact absurd h nofun
  · obtain ⟨word, rest, rfl, hword, hrest⟩ := exists_word cs
    obtain ⟨found, hfound, -⟩ := exists_of_isWord (List.forall_mem_cons.2 ⟨hc, hword⟩)
      (Bool.eq_false_iff.2 hdecimal) hrest
    rw [List.cons_append, h] at hfound
    exact absurd hfound nofun

/-- Only what begins with a character of a word is read as a word. -/
theorem isWord_of_next? {c : Char} {cs : List Char} {n : Nat}
    (h : next? (c :: cs) = some (.word, n)) : Text.isWord c = true := by
  have hother {kind : Lexeme} (hkind : kind ≠ .word) {n : Nat} (found : Lexeme × Nat)
      (h : ofLength kind n = some found) : found.1 ≠ .word := (of_ofLength found h).1 ▸ hkind
  rw [← Bool.not_eq_false]
  intro hc
  rw [next?_of_not_isWord hc] at h
  refine absurd rfl (?_ : (Lexeme.word, n).1 ≠ .word)
  revert h
  generalize (Lexeme.word, n) = found
  revert found
  exact of_orElse (hother (by decide)) <| of_orElse (hother (by decide)) <|
    of_orElse (fun found h => (of_tripleAt found h).1) <| of_orElse (hother (by decide)) <|
    of_orElse (hother (by decide)) <|
    of_orElse (hother (by decide)) <| fun found h => (of_stringAt found h).1

/-- In front of a point, `self` is read as a word. -/
theorem next?_self (cs : List Char) :
    next? ('s' :: 'e' :: 'l' :: 'f' :: '.' :: cs) = some (.word, 4) := by
  have hword : ∀ d ∈ ['s', 'e', 'l', 'f'], Text.isWord d = true :=
    List.all_eq_true.1 (by decide)
  have hpoint : Text.isWord '.' = false := by decide
  have hrest : ∀ d ∈ ('.' :: cs).head?, Text.isWord d = false := by simpa using hpoint
  have hnext := next?_of_isWord hword (by decide) hrest
  rw [tripleAt_append hword hpoint, stringAt_append hword hpoint] at hnext
  exact hnext

/-- In front of a name, the point is read as an operator. -/
theorem next?_point {c : Char} (hc : isNameStart c = true) (cs : List Char) :
    next? ('.' :: c :: cs) = some (.operator, 1) := by
  have hpoint : Text.isWord '.' = false := by decide
  have hempty : ∀ d ∈ ([] : List Char), Text.isWord d = true := nofun
  have htriple := tripleAt_append hempty hpoint (c :: cs)
  have hnumber : numberLength ('.' :: c :: cs) = 0 := by
    rw [numberLength_eq_zero_iff, digitRun, isDecimal_of_isNameStart hc]
    exact ⟨by decide, Or.inr rfl⟩
  rw [next?_of_not_isWord hpoint, ofLength_orElse,
    if_pos (continuationLength_of_ne (by decide) _), ofLength_orElse,
    if_pos (commentLength_of_ne (by decide) _), ← List.nil_append ('.' :: c :: cs), htriple,
    List.nil_append, hnumber, operatorLength_point hc]
  rfl

end Lexeme

end LayerGraph.Flow
