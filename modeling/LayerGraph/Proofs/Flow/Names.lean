import LayerGraph.Proofs.Flow.Qualifying
import LayerGraph.Proofs.Text.Identifier

/-! # Names in a line

    How a line is read where it holds a name. A name need not be a single word: what may stand in an
    identifier need not be a character of a word, and there the name falls apart. Its tokens are
    those that it has alone (`nameTokens`), wherever it stands, as long as what stands behind it
    ends a word and a number (`EndsWord`); none of them is an operator, and none ends a line.
-/

namespace LayerGraph.Flow

/-! ### Numbers in a word -/

/-- Whether a word, and a number in a word, ends in front of a text. -/
def EndsWord (cs : List Char) : Prop :=
  ∀ d ∈ cs.head?, Text.isWord d = false ∧ isQuote d = false ∧ d ∉ ['.', '+', '-']

theorem endsWord_nil : EndsWord [] := by simp [EndsWord]

section runs
variable {p : Char → Bool} (hp : ∀ c, p c = true → Text.isWord c = true)
  {rest : List Char} (hrest : EndsWord rest)
include hp hrest

theorem head_of_endsWord {d : Char} (hd : d ∈ rest.head?) : p d = false :=
  Bool.eq_false_iff.2 fun h => absurd ((hp d h).symm.trans (hrest d hd).1) nofun

theorem digitRun_of_endsWord : digitRun p rest = 0 := by
  cases rest with
  | nil => rfl
  | cons d rest =>
    rw [digitRun, head_of_endsWord hp hrest rfl]
    rfl

theorem tailRun_of_endsWord : tailRun p rest = 0 := by
  have hrun := digitRun_of_endsWord hp hrest
  cases rest with
  | nil => rfl
  | cons d rest =>
    have hd : d ≠ '_' := by
      rintro rfl
      exact absurd (hrest '_' rfl).1 (by decide)
    rw [tailRun_cons hd]
    exact hrun

variable (hline : p '_' = false)
include hline

theorem tailRun_append (word : List Char) : tailRun p (word ++ rest) = tailRun p word := by
  fun_induction tailRun p word with
  | case1 d word hd ih => rw [List.cons_append, List.cons_append, tailRun_underscore, if_pos hd, ih]
  | case2 d word hd => rw [List.cons_append, List.cons_append, tailRun_underscore, if_neg hd]
  | case3 d word hno hd ih =>
    have hne : d ≠ '_' := by
      rintro rfl
      rw [hline] at hd
      exact absurd hd nofun
    rw [List.cons_append, tailRun_cons hne, if_pos hd, ih]
  | case4 d word hno hd =>
    by_cases hne : d = '_'
    · subst hne
      cases word with
      | cons d word => exact absurd rfl (hno d word rfl)
      | nil =>
        -- an underscore at the end of the word goes on with nothing
        cases rest with
        | nil => simp [tailRun, hline]
        | cons d rest =>
          rw [List.singleton_append, tailRun_underscore, head_of_endsWord hp hrest rfl]
          rfl
    · rw [List.cons_append, tailRun_cons hne, if_neg hd]
  | case5 => exact tailRun_of_endsWord hp hrest

theorem digitRun_append (word : List Char) : digitRun p (word ++ rest) = digitRun p word := by
  cases word with
  | nil => exact digitRun_of_endsWord hp hrest
  | cons d word => rw [List.cons_append, digitRun, digitRun, tailRun_append hp hrest hline]

theorem basedLength_append {letter capital : Char} (hletter : Text.isWord letter = true)
    (hcapital : Text.isWord capital = true) (c : Char) (word : List Char) :
    basedLength letter capital p (c :: word ++ rest) =
      basedLength letter capital p (c :: word) := by
  by_cases hc : c = '0'
  · subst hc
    cases word with
    | cons d word =>
      simp only [List.cons_append, basedLength_zero, tailRun_append hp hrest hline]
    | nil =>
      cases rest with
      | nil => rfl
      | cons d rest =>
        have hd := (hrest d rfl).1
        rw [List.singleton_append, basedLength_zero, if_neg]
        · rfl
        · rintro ⟨rfl | rfl, -⟩
          · exact absurd (hletter.symm.trans hd) nofun
          · exact absurd (hcapital.symm.trans hd) nofun
  · rw [List.cons_append, basedLength_of_ne hc, basedLength_of_ne hc]

end runs

/-- The lengths of the parts of a number are at most those of the texts. -/
theorem tailRun_le (p : Char → Bool) (cs : List Char) : tailRun p cs ≤ cs.length := by
  fun_induction tailRun p cs with
  | case1 d word hd ih => simp only [List.length_cons]; omega
  | case3 d word hno hd ih => simp only [List.length_cons]; omega
  | _ => exact Nat.zero_le _

theorem digitRun_le (p : Char → Bool) (cs : List Char) : digitRun p cs ≤ cs.length := by
  cases cs with
  | nil => exact Nat.zero_le _
  | cons d cs =>
    rw [digitRun]
    split
    · exact Nat.succ_le_succ (tailRun_le p cs)
    · exact Nat.zero_le _

theorem exponentLength_le (cs : List Char) : exponentLength cs ≤ cs.length := by
  cases cs with
  | nil => exact Nat.zero_le _
  | cons mark cs =>
    rw [exponentLength_cons, List.length_cons]
    cases cs with
    | nil => split <;> exact Nat.zero_le _
    | cons d cs =>
      have hbehind := digitRun_le isDecimal cs
      have hall := digitRun_le isDecimal (d :: cs)
      rw [List.length_cons] at hall ⊢
      rw [signedLength]
      repeat' split
      all_goals omega

theorem floatLength_le (cs : List Char) : floatLength cs ≤ cs.length := by
  have hpoint : ∀ whole rest, pointLength whole rest ≤ whole + rest.length := by
    intro whole rest
    have hexponent := exponentLength_le rest
    cases rest with
    | nil => simp [pointLength, exponentLength]
    | cons d rest =>
      by_cases hd : d = '.'
      · subst hd
        have hdecimals := digitRun_le isDecimal rest
        have hlater := exponentLength_le (rest.drop (digitRun isDecimal rest))
        rw [List.length_drop] at hlater
        rw [pointLength_point, List.length_cons]
        split <;> omega
      · rw [pointLength_of_ne hd]
        split <;> omega
  have hwhole := digitRun_le isDecimal cs
  have hall := hpoint (digitRun isDecimal cs) (cs.drop (digitRun isDecimal cs))
  rw [List.length_drop] at hall
  rw [floatLength_eq]
  omega

theorem isWord_of_isHexadecimal {c : Char} (h : isHexadecimal c = true) : Text.isWord c = true := by
  have hascii : ∀ n < 103, isHexadecimal (Char.ofNat n) = true →
      Text.isWord (Char.ofNat n) = true := by decide
  have hle : c.toNat ≤ 102 := by
    have hall := h
    simp only [isHexadecimal, isDecimal, Bool.or_eq_true, Bool.and_eq_true, decide_eq_true_eq]
      at hall
    rcases hall with (⟨-, hle⟩ | ⟨-, hle⟩) | ⟨-, hle⟩
    · exact Nat.le_trans (show c.toNat ≤ 57 from hle) (by decide)
    · exact hle
    · exact Nat.le_trans (show c.toNat ≤ 70 from hle) (by decide)
  have hword := hascii c.toNat (by omega)
  rw [Char.ofNat_toNat] at hword
  exact hword h

section word
variable {word rest : List Char} (hword : ∀ c ∈ word, Text.isWord c = true)
  (hrest : EndsWord rest)
include hrest

theorem decimals_append (word : List Char) :
    digitRun isDecimal (word ++ rest) = digitRun isDecimal word :=
  digitRun_append (fun _ h => isWord_of_isDecimal h) hrest (by decide) word

theorem integerLength_append (hne : word ≠ []) :
    integerLength (word ++ rest) = integerLength word := by
  obtain ⟨c, word, rfl⟩ := List.exists_cons_of_ne_nil hne
  have hdecimal : decimalLength (c :: word ++ rest) = decimalLength (c :: word) := by
    by_cases hc : c = '0'
    · subst hc
      rw [List.cons_append, decimalLength_zero, decimalLength_zero,
        tailRun_append (fun d hd => by rw [beq_iff_eq.1 hd]; decide) hrest (by decide)]
    · have hrun := decimals_append hrest (c :: word)
      rw [List.cons_append] at hrun ⊢
      rw [decimalLength_of_ne hc, decimalLength_of_ne hc, hrun]
  have hsmall {d e : Char} (he : e ≤ '9') (hd : (decide ('0' ≤ d) && decide (d ≤ e)) = true) :
      Text.isWord d = true := by
    rw [Bool.and_eq_true, decide_eq_true_eq, decide_eq_true_eq] at hd
    refine isWord_of_isDecimal ?_
    rw [isDecimal, decide_eq_true hd.1, decide_eq_true (Char.le_trans hd.2 he)]
    rfl
  have hbinary : ∀ d : Char, (d == '0' || d == '1') = true → Text.isWord d = true := by
    intro d hd
    rcases Bool.or_eq_true_iff.1 hd with hd | hd <;> rw [beq_iff_eq.1 hd] <;> decide
  rw [integerLength_eq, integerLength_eq, hdecimal,
    basedLength_append (fun _ h => isWord_of_isHexadecimal h) hrest (by decide) (by decide)
      (by decide),
    basedLength_append hbinary hrest (by decide) (by decide) (by decide),
    basedLength_append (fun _ h => hsmall (by decide) h) hrest (by decide) (by decide) (by decide)]

theorem isImaginaryAt_append {n : Nat} (hn : n ≤ word.length) :
    isImaginaryAt (word ++ rest) n = isImaginaryAt word n := by
  rcases Nat.lt_or_eq_of_le hn with hlt | rfl
  · exact isImaginaryAt_of_lt hlt
  · unfold isImaginaryAt
    rw [List.drop_left, List.drop_length]
    cases rest with
    | nil => rfl
    | cons d rest =>
      have hd := (hrest d rfl).1
      have hj {c : Char} (hc : Text.isWord c = true) : (d == c) = false :=
        beq_false_of_ne (ne_of_isWord hc hd).symm
      simp [hj (c := 'j') (by decide), hj (c := 'J') (by decide)]

include hword

theorem signedLength_append : signedLength (word ++ rest) = signedLength word := by
  cases word with
  | nil =>
    have hnone := decimals_append hrest []
    cases rest with
    | nil => rfl
    | cons d rest =>
      obtain ⟨-, -, hd⟩ := hrest d rfl
      have hsign : ¬(d = '+' ∨ d = '-') := by
        rintro (rfl | rfl) <;> exact hd (by decide)
      rw [List.nil_append] at hnone ⊢
      rw [signedLength, if_neg hsign, hnone]
      rfl
  | cons d word =>
    have hd := hword d List.mem_cons_self
    have hsign : ¬(d = '+' ∨ d = '-') := by
      rintro (rfl | rfl) <;> exact absurd hd (by decide)
    have hrun := decimals_append hrest (d :: word)
    rw [List.cons_append] at hrun ⊢
    rw [signedLength, if_neg hsign, hrun, signedLength, if_neg hsign]

theorem exponentLength_append : exponentLength (word ++ rest) = exponentLength word := by
  cases word with
  | nil =>
    cases rest with
    | nil => rfl
    | cons d rest =>
      have hd := (hrest d rfl).1
      rw [List.nil_append, exponentLength_cons, if_neg]
      · rfl
      · rintro (rfl | rfl) <;> exact absurd hd (by decide)
  | cons d word =>
    rw [List.cons_append, exponentLength_cons, exponentLength_cons,
      signedLength_append (List.forall_mem_cons.1 hword).2 hrest]

theorem pointLength_append (whole : Nat) :
    pointLength whole (word ++ rest) = pointLength whole word := by
  have hexponent := exponentLength_append hword hrest
  cases word with
  | cons c word =>
    have hc : c ≠ '.' := ne_of_isWord (hword c List.mem_cons_self) (by decide)
    rw [List.cons_append] at hexponent ⊢
    rw [pointLength_of_ne hc, pointLength_of_ne hc, hexponent]
  | nil =>
    cases rest with
    | nil => rfl
    | cons d rest =>
      have hd : d ≠ '.' := by
        rintro rfl
        exact (hrest '.' rfl).2.2 List.mem_cons_self
      rw [List.nil_append] at hexponent ⊢
      rw [pointLength_of_ne hd, hexponent]
      rfl

theorem floatLength_append : floatLength (word ++ rest) = floatLength word := by
  have hdrop : ∀ c ∈ word.drop (digitRun isDecimal word), Text.isWord c = true :=
    fun c hc => hword c (List.mem_of_mem_drop hc)
  rw [floatLength_eq, floatLength_eq, decimals_append hrest,
    List.drop_append_of_le_length (digitRun_le _ _), pointLength_append hdrop hrest]

/-- A number ends where the word does, or in the word. -/
theorem numberLength_append (hne : word ≠ []) :
    numberLength (word ++ rest) = numberLength word := by
  rw [numberLength_eq, numberLength_eq, decimals_append hrest, floatLength_append hword hrest,
    integerLength_append hrest hne, isImaginaryAt_append hrest (digitRun_le _ _),
    isImaginaryAt_append hrest (floatLength_le _)]

end word

theorem numberLength_le (cs : List Char) : numberLength cs ≤ cs.length := by
  have hwhole := digitRun_le isDecimal cs
  have hfloat := floatLength_le cs
  have himaginary {n : Nat} (h : isImaginaryAt cs n = true) : n < cs.length := by
    refine Nat.lt_of_not_le fun hle => ?_
    rw [isImaginaryAt, List.drop_eq_nil_of_le hle] at h
    exact absurd h nofun
  have hbased (letter capital : Char) (p : Char → Bool) :
      basedLength letter capital p cs ≤ cs.length := by
    rw [basedLength.eq_def]
    split
    · next rest =>
      have htail := tailRun_le p rest
      simp only [List.length_cons]
      split <;> omega
    · exact Nat.zero_le _
  have hdecimal : decimalLength cs ≤ cs.length := by
    rw [decimalLength.eq_def]
    split
    · exact Nat.succ_le_succ (tailRun_le _ _)
    · exact hwhole
  have hinteger : integerLength cs ≤ cs.length := by
    rw [integerLength_eq]
    repeat' split
    all_goals first | exact hbased .. | exact hdecimal
  rw [numberLength_eq]
  repeat' split
  · next h => exact himaginary h.2
  · next h => exact himaginary h
  · exact hfloat
  · exact hinteger

/-! ### The next lexeme in a name -/

/-- Where a text ends words, so does one that stands behind it. -/
theorem EndsWord.append {xs ys : List Char} (hxs : EndsWord xs) (hys : EndsWord ys) :
    EndsWord (xs ++ ys) := by
  cases xs with
  | nil => exact hys
  | cons c xs => exact hxs

theorem ne_of_isIdentifierPart {c d : Char} (hc : Text.isIdentifierPart c = true)
    (hd : Text.isIdentifierPart d = false) : c ≠ d := by
  rintro rfl
  exact absurd (hc.symm.trans hd) nofun

/-- A word ends in front of what may stand in an identifier but in no word. -/
theorem endsWord_of_isIdentifierPart {c : Char} (hpart : Text.isIdentifierPart c = true)
    (hc : Text.isWord c = false) (cs : List Char) : EndsWord (c :: cs) := by
  have hne {d : Char} (hd : Text.isIdentifierPart d = false) : c ≠ d :=
    ne_of_isIdentifierPart hpart hd
  rintro _ ⟨⟩
  refine ⟨hc, ?_, ?_⟩
  · rw [isQuote, beq_false_of_ne (hne (by decide)), beq_false_of_ne (hne (by decide))]
    rfl
  · simp only [List.mem_cons, List.not_mem_nil, or_false, not_or]
    exact ⟨hne (by decide), hne (by decide), hne (by decide)⟩

namespace Lexeme

/-- A text that ends a word does not make it the mark of a string. -/
theorem markLength?_eq_none {word rest : List Char} (hword : ∀ c ∈ word, Text.isWord c = true)
    (hrest : EndsWord rest) : markLength? (word ++ rest) = none := by
  have hquote : startsWithQuote rest = false := by
    cases rest with
    | nil => rfl
    | cons d rest => exact (hrest d rfl).2.1
  rw [markLength?_append hword fun d hd => (hrest d hd).1, hquote, Bool.and_false]
  rfl

/-- A word is taken as a whole, unless it begins with a digit. -/
theorem next?_word {c : Char} {word rest : List Char}
    (hword : ∀ d ∈ c :: word, Text.isWord d = true) (hc : isDecimal c = false)
    (hrest : EndsWord rest) : next? (c :: word ++ rest) = some (.word, word.length + 1) := by
  rw [next?_of_isWord hword hc fun d hd => (hrest d hd).1, tripleAt, stringAt,
    markLength?_eq_none hword hrest]
  rfl

/-- What may stand in an identifier but in no word begins no lexeme. -/
theorem next?_of_isIdentifierPart {c : Char} (hpart : Text.isIdentifierPart c = true)
    (hc : Text.isWord c = false) (cs : List Char) : next? (c :: cs) = none := by
  have hne {d : Char} (hd : Text.isIdentifierPart d = false) : c ≠ d :=
    ne_of_isIdentifierPart hpart hd
  have hends := endsWord_of_isIdentifierPart hpart hc cs
  have hnumber : numberLength (c :: cs) = 0 := by
    refine (numberLength_eq_zero_iff c cs).2 ⟨Bool.eq_false_iff.2 fun h => ?_, Or.inl ?_⟩
    · cases (isWord_of_isDecimal h).symm.trans hc
    · exact hne (by decide)
  have hmark : markLength? (c :: cs) = none :=
    markLength?_eq_none (List.forall_mem_nil _) hends
  have hoperator : operatorLength (c :: cs) = 0 := by
    have hheads : ∀ op ∈ operators,
        (op.toList.head?.all fun d => !Text.isIdentifierPart d) = true := by decide
    refine operatorLength_eq_zero (fun op hop hhead => ?_) cs
    have hno := hheads op hop
    rw [hhead, Option.all_some, hpart] at hno
    cases hno
  have hlineEnd : lineEndLength (c :: cs) = 0 := by
    rw [lineEndLength_eq, List.isPrefixOf_cons_cons, List.isPrefixOf_cons_cons,
      beq_false_of_ne (hne (by decide)).symm, beq_false_of_ne (hne (by decide)).symm]
    rfl
  rw [next?_of_not_isWord hc, continuationLength_of_ne (hne (by decide)),
    commentLength_of_ne (hne (by decide)), tripleAt, stringAt, hmark, hnumber, hlineEnd, hoperator]
  rfl

end Lexeme

/-! ### The tokens of a name -/

/-- Whether a token says something, is no operator and ends no line. -/
structure Token.IsInert (t : Token) : Prop where
  newline : t.kind ≠ .newline
  code : t.carriesCode = true
  operator : t.string ∉ operators

/-- A token that is moved to a line, and by a number of columns. -/
def Token.movedTo (line column : Nat) (t : Token) : Token :=
  { t with line := line, column := column + t.column }

theorem Token.movedTo_movedTo (line line' column column' : Nat) (t : Token) :
    (t.movedTo line' column').movedTo line column = t.movedTo line (column + column') := by
  simp only [movedTo, Nat.add_assoc]

theorem Token.IsInert.movedTo {t : Token} (h : t.IsInert) (line column : Nat) :
    (t.movedTo line column).IsInert := ⟨h.newline, h.code, h.operator⟩

/-- Characters that may stand in an identifier are no operator. -/
theorem not_mem_operators {text : List Char} (h : ∀ c ∈ text, Text.isIdentifierPart c = true)
    (hne : text ≠ []) : String.ofList text ∉ operators := by
  have hheads : ∀ op ∈ operators,
      (op.toList.head?.all fun d => !Text.isIdentifierPart d) = true := by decide
  intro hop
  obtain ⟨c, cs, rfl⟩ := List.exists_cons_of_ne_nil hne
  have hno := hheads _ hop
  rw [String.toList_ofList, List.head?_cons, Option.all_some, h c List.mem_cons_self] at hno
  exact absurd hno nofun

theorem isGap_of_isIdentifierPart {c : Char} (h : Text.isIdentifierPart c = true) :
    isGap c = false := by
  rw [isGap, beq_false_of_ne (ne_of_isIdentifierPart h (by decide)),
    beq_false_of_ne (ne_of_isIdentifierPart h (by decide)),
    beq_false_of_ne (ne_of_isIdentifierPart h (by decide))]
  rfl

/-- Whether a text falls into certain tokens wherever it stands, if what stands behind it ends a
    word: these tokens, moved to where the text stands. -/
structure ReadsAs (text : List Char) (ts : List Token) : Prop where
  inert : ∀ t ∈ ts, t.IsInert
  line : ∀ t ∈ ts, t.line = 0
  within : ∀ t ∈ ts, t.column < text.length
  word : ∀ t ∈ ts, t.kind = .name → (∀ c ∈ t.text, Text.isWord c = true) ∧ t.text <:+: text
  scanned : ∀ {line column : Nat} {st final : LexState} {behind : List Char} {later : List Token},
    EndsWord behind → Scanned line st (column + text.length) behind later final →
      Scanned line st column (text ++ behind) (ts.map (·.movedTo line column) ++ later) final

namespace ReadsAs
variable {text : List Char} {ts : List Token}

theorem nil : ReadsAs [] [] := ⟨nofun, nofun, nofun, nofun, fun _ h => h⟩

/-- In front of a text that is read may stand one more token. -/
theorem cons (h : ReadsAs text ts) {front : List Char} {t : Token} (hinert : t.IsInert)
    (hline : t.line = 0) (hplace : t.column = 0) (hne : front ≠ [])
    (hname : t.kind = .name → t.text = front ∧ ∀ c ∈ front, Text.isWord c = true)
    (hstep : ∀ {line column : Nat} {st final : LexState} {behind : List Char} {later : List Token},
      EndsWord behind → Scanned line st (column + front.length) (text ++ behind) later final →
        Scanned line st column (front ++ (text ++ behind)) (t.movedTo line column :: later) final) :
    ReadsAs (front ++ text) (t :: ts.map (·.movedTo 0 front.length)) where
  inert := List.forall_mem_cons.2
    ⟨hinert, List.forall_mem_map.2 fun u hu => (h.inert u hu).movedTo ..⟩
  line := List.forall_mem_cons.2 ⟨hline, List.forall_mem_map.2 fun _ _ => rfl⟩
  within := by
    rw [List.length_append]
    refine List.forall_mem_cons.2 ⟨?_, List.forall_mem_map.2 fun u hu => ?_⟩
    · have hpos := List.length_pos_iff.2 hne
      omega
    · exact Nat.add_lt_add_left (h.within u hu) _
  word := by
    refine List.forall_mem_cons.2 ⟨fun hkind => ?_, List.forall_mem_map.2 fun u hu hkind => ?_⟩
    · obtain ⟨htext, hword⟩ := hname hkind
      rw [htext]
      exact ⟨hword, (List.prefix_append front text).isInfix⟩
    · obtain ⟨hword, hinfix⟩ := h.word u hu hkind
      exact ⟨hword, hinfix.trans (List.suffix_append front text).isInfix⟩
  scanned {line column st final behind later} hbehind hlater := by
    rw [List.length_append, ← Nat.add_assoc] at hlater
    rw [List.append_assoc, List.map_cons, List.map_map]
    have hmoved : (Token.movedTo line column) ∘ (Token.movedTo 0 front.length) =
        Token.movedTo line (column + front.length) :=
      funext fun u => Token.movedTo_movedTo ..
    rw [hmoved]
    exact hstep hbehind (h.scanned hbehind hlater)

end ReadsAs

/-- A lexeme that is a token, and leaves the rest of the line as it is. -/
theorem Scanned.takes {line column : Nat} {st next final : LexState} {blanks text rest : List Char}
    {c : Char} {later : List Token} {lexeme : Lexeme} {kind : TokenKind}
    (hblanks : ∀ b ∈ blanks, isGap b = true) (hgap : isGap c = false)
    (hnext : Lexeme.next? (c :: text ++ rest) = some (lexeme, (c :: text).length))
    (hstep : lexemeStep st line (column + blanks.length) lexeme (c :: text) rest =
      (some ⟨kind, c :: text, line, column + blanks.length⟩, next, rest))
    (hlater : Scanned line next (column + blanks.length + (c :: text).length) rest later final) :
    Scanned line st column (blanks ++ (c :: text ++ rest))
      (⟨kind, c :: text, line, column + blanks.length⟩ :: later) final := by
  have htaken : lexemeStep st line (column + blanks.length) lexeme
      ((c :: (text ++ rest)).take (c :: text).length)
      ((c :: (text ++ rest)).drop (c :: text).length) =
        (some ⟨kind, c :: text, line, column + blanks.length⟩, next, rest) := by
    rw [← List.cons_append, List.take_left, List.drop_left, hstep]
  have hcolumn : column + (blanks ++ c :: (text ++ rest)).length - rest.length =
      column + blanks.length + (c :: text).length := by
    simp only [List.length_append, List.length_cons]
    omega
  exact .lexeme hblanks hgap hnext htaken (hcolumn ▸ hlater)

namespace ReadsAs
variable {text : List Char} {ts : List Token} {c : Char} (hpart : Text.isIdentifierPart c = true)
include hpart

/-- What stands in no word is a token. -/
theorem takesStray (h : ReadsAs text ts) (hc : Text.isWord c = false) :
    ReadsAs ([c] ++ text) (⟨.stray, [c], 0, 0⟩ :: ts.map (·.movedTo 0 1)) := by
  refine h.cons ⟨by simp, rfl, ?_⟩ rfl rfl (List.cons_ne_nil _ _) (by simp) fun _ hlater => ?_
  · exact not_mem_operators (List.forall_mem_singleton.2 hpart) (List.cons_ne_nil _ _)
  · exact @Scanned.stray _ _ _ _ c c _ [] _ _ (List.forall_mem_nil _)
      (isGap_of_isIdentifierPart hpart) rfl (Lexeme.next?_of_isIdentifierPart hpart hc _) hlater

variable {word : List Char} (hword : ∀ d ∈ word, Text.isIdentifierPart d = true)
include hword

/-- A word in front of what is no word is a token. -/
theorem takesWord (h : ReadsAs text ts)
    (hall : ∀ d ∈ c :: word, Text.isWord d = true) (hc : isDecimal c = false)
    (hends : EndsWord text) :
    ReadsAs (c :: word ++ text)
      (⟨wordKind (c :: word), c :: word, 0, 0⟩ :: ts.map (·.movedTo 0 (word.length + 1))) := by
  have hkind : wordKind (c :: word) = .name ∨ wordKind (c :: word) = .operator := by
    rw [wordKind]
    split
    · exact Or.inl rfl
    · exact Or.inr rfl
  refine h.cons ⟨?_, ?_, ?_⟩ rfl rfl (List.cons_ne_nil _ _) (fun _ => ⟨rfl, hall⟩)
    fun hbehind hlater => ?_
  · rcases hkind with hkind | hkind <;> simp [hkind]
  · rcases hkind with hkind | hkind <;> simp [Token.carriesCode, hkind]
  · exact not_mem_operators (List.forall_mem_cons.2 ⟨hpart, hword⟩) (List.cons_ne_nil _ _)
  · exact @Scanned.takes _ _ _ _ _ [] _ _ _ _ _ _ (List.forall_mem_nil _)
      (isGap_of_isIdentifierPart hpart) (Lexeme.next?_word hall hc (hends.append hbehind)) rfl
      hlater

/-- A number in front of the rest of a word is a token. -/
theorem takesNumber {rest : List Char} (h : ReadsAs (rest ++ text) ts)
    (hall : ∀ d ∈ c :: word ++ rest, Text.isWord d = true) (hc : isDecimal c = true)
    (hlength : numberLength (c :: word ++ rest) = word.length + 1) (hends : EndsWord text) :
    ReadsAs (c :: word ++ (rest ++ text))
      (⟨.number, c :: word, 0, 0⟩ :: ts.map (·.movedTo 0 (word.length + 1))) := by
  refine h.cons ⟨by simp, rfl, ?_⟩ rfl rfl (List.cons_ne_nil _ _) (by simp)
    fun {_ _ _ _ behind _} hbehind hlater => ?_
  · exact not_mem_operators (List.forall_mem_cons.2 ⟨hpart, hword⟩) (List.cons_ne_nil _ _)
  · have hnext : Lexeme.next? (c :: word ++ (rest ++ text ++ behind)) =
        some (.number, (c :: word).length) := by
      have hnumber := numberLength_append hall (hends.append hbehind) (by simp)
      rw [List.append_assoc, hlength] at hnumber
      rw [List.append_assoc, List.cons_append, Lexeme.next?_of_isDecimal hc, ← List.cons_append,
        hnumber]
      rfl
    exact @Scanned.takes _ _ _ _ _ [] _ _ _ _ _ _ (List.forall_mem_nil _)
      (isGap_of_isIdentifierPart hpart) hnext rfl hlater

end ReadsAs

/-- A name falls into the same tokens wherever it stands. -/
theorem exists_readsAs : ∀ {name : List Char},
    (∀ c ∈ name, Text.isIdentifierPart c = true) → ∃ ts, ReadsAs name ts
  | [], _ => ⟨[], .nil⟩
  | c :: cs, hname => by
    obtain ⟨hpart, hrest⟩ := List.forall_mem_cons.1 hname
    -- a name is cut into words, and what is left behind each word is shorter
    by_cases hc : Text.isWord c = true
    · obtain ⟨word, text, hcs, hword, hends⟩ := Lexeme.exists_word cs
      rw [hcs] at hrest ⊢
      obtain ⟨hparts, htext⟩ := List.forall_mem_append.1 hrest
      have hends : EndsWord text := by
        cases text with
        | nil => exact nofun
        | cons d text =>
          exact endsWord_of_isIdentifierPart (htext d List.mem_cons_self) (hends d rfl) text
      have hall : ∀ d ∈ c :: word, Text.isWord d = true := List.forall_mem_cons.2 ⟨hc, hword⟩
      by_cases hdecimal : isDecimal c = true
      · -- a number at the front of a word leaves the rest of the word
        have hpos : numberLength (c :: word) ≠ 0 := fun hzero =>
          absurd (hdecimal.symm.trans ((numberLength_eq_zero_iff c word).1 hzero).1) nofun
        have hle := numberLength_le (c :: word)
        obtain ⟨n, hn⟩ := Nat.exists_eq_succ_of_ne_zero hpos
        rw [hn, List.length_cons, Nat.succ_le_succ_iff] at hle
        have hsplit : word = word.take n ++ word.drop n := (List.take_append_drop n word).symm
        have hlength : n = (word.take n).length := (List.length_take_of_le hle).symm
        have hdigits : ∀ d ∈ word.take n, Text.isIdentifierPart d = true :=
          fun d hd => hparts d (List.mem_of_mem_take hd)
        have hmore : ∀ d ∈ word.drop n ++ text, Text.isIdentifierPart d = true :=
          List.forall_mem_append.2 ⟨fun d hd => hparts d (List.mem_of_mem_drop hd), htext⟩
        obtain ⟨ts, h⟩ := exists_readsAs hmore
        have hread := h.takesNumber hpart hdigits (by rwa [List.cons_append, ← hsplit]) hdecimal
          (by rw [List.cons_append, ← hsplit, hn, ← hlength]) hends
        rw [← List.append_assoc, List.cons_append, ← hsplit] at hread
        exact ⟨_, hread⟩
      · obtain ⟨ts, h⟩ := exists_readsAs htext
        exact ⟨_, h.takesWord hpart hparts hall (Bool.eq_false_iff.2 hdecimal) hends⟩
    · obtain ⟨ts, h⟩ := exists_readsAs hrest
      exact ⟨_, h.takesStray hpart (Bool.eq_false_iff.2 hc)⟩
termination_by name => name.length
decreasing_by
  · rw [hcs]
    simp only [List.length_append, List.length_cons, List.length_drop]
    omega
  · rw [hcs]
    simp only [List.length_append, List.length_cons]
    omega
  · exact Nat.lt_succ_self _

/-- The tokens of a name that stands alone. -/
def nameTokens (name : List Char) : List Token := (scan name.length .start 0 0 name).1

theorem ReadsAs.nameTokens_eq {name : List Char} {ts : List Token} (h : ReadsAs name ts) :
    nameTokens name = ts := by
  have halone := h.scanned endsWord_nil
    (@Scanned.blank 0 .start (0 + name.length) [] (List.forall_mem_nil _))
  rw [List.append_nil, List.append_nil] at halone
  rw [nameTokens, halone.scan_eq (Nat.le_refl _)]
  refine (List.map_congr_left fun t ht => ?_).trans (List.map_id ts)
  rw [Token.movedTo, Nat.zero_add, ← h.line t ht]
  rfl

/-- Wherever a name stands, its tokens are those that it has alone. -/
theorem readsAs_nameTokens {name : List Char}
    (hname : ∀ c ∈ name, Text.isIdentifierPart c = true) : ReadsAs name (nameTokens name) := by
  obtain ⟨ts, h⟩ := exists_readsAs hname
  rwa [h.nameTokens_eq]

/-- A name that is a word is a single token. -/
theorem nameTokens_of_isWord {c : Char} {word : List Char}
    (hword : ∀ d ∈ c :: word, Text.isWord d = true)
    (hstart : Text.isIdentifierStart c = true)
    (hpart : ∀ d ∈ word, Text.isIdentifierPart d = true) :
    nameTokens (c :: word) = [⟨.name, c :: word, 0, 0⟩] := by
  have hc : isNameStart c = true := by
    rw [isNameStart, hword c List.mem_cons_self, hstart]
    rfl
  have hread := ReadsAs.nil.takesWord (Text.isIdentifierPart_of_isIdentifierStart hstart) hpart
    hword (isDecimal_of_isNameStart hc) endsWord_nil
  rw [List.append_nil, wordKind, if_pos hstart] at hread
  exact hread.nameTokens_eq

/-- A blank in front of what is no blank adds at most a token for itself. -/
theorem Scanned.exists_behind_blank {line column : Nat} {st final : LexState} {c : Char}
    {cs : List Char} {tokens : List Token} (hgap : isGap c = false)
    (h : Scanned line st (column + 1) (c :: cs) tokens final) :
    ∃ lead : List Token, (∀ t ∈ lead, t = ⟨.stray, [' '], line, column⟩) ∧
      Scanned line st column (' ' :: c :: cs) (lead ++ tokens) final := by
  have hspace : ∀ b ∈ [' '], isGap b = true := List.forall_mem_singleton.2 rfl
  have hnone {blanks rest : List Char} (hblanks : ∀ b ∈ blanks, isGap b = true)
      (hsplit : c :: cs = blanks ++ rest) : blanks = [] := by
    cases blanks with
    | nil => rfl
    | cons b blanks =>
      obtain ⟨rfl, -⟩ := List.cons.inj hsplit
      exact absurd ((hblanks c List.mem_cons_self).symm.trans hgap) nofun
  generalize htext : c :: cs = text at h
  cases h with
  | blank hblanks =>
    rw [← htext] at hblanks
    exact absurd ((hblanks c List.mem_cons_self).symm.trans hgap) nofun
  | stray hblanks hd hsplit hnext rest =>
    obtain rfl := hnone hblanks (htext.trans hsplit)
    refine ⟨[⟨.stray, [' '], line, column⟩], List.forall_mem_singleton.2 rfl, ?_⟩
    exact .stray hspace hd (congrArg (' ' :: ·) hsplit) hnext
      (.stray hblanks hd hsplit hnext rest)
  | @lexeme _ _ _ _ _ d ds blanks behind _ _ _ hblanks hd hnext hstep rest =>
    obtain rfl := hnone hblanks htext
    have hcolumn : column + ([' '] ++ d :: ds).length - behind.length =
        column + 1 + (d :: ds).length - behind.length := by
      rw [List.singleton_append, List.length_cons, Nat.add_right_comm, Nat.add_assoc]
    exact ⟨[], nofun, .lexeme hspace hd hnext hstep (hcolumn ▸ rest)⟩

end LayerGraph.Flow
