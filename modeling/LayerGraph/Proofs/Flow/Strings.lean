import LayerGraph.Proofs.Flow.Qualified

/-! # Strings in qualified text

    A string that ends in front of all insertions ends there in the qualified text too, and where no
    string is closed in time, none is closed behind insertions. Letters in front of a quote only
    mark a string if they are the whole word there, so an insertion in front of a word does not
    change whether its letters do.
-/

namespace LayerGraph.Flow

/-! ### Marks -/

/-- Whether the letters of a word mark a string behind them. -/
def isMark (word : List Char) : Bool :=
  stringMarks.contains (String.ofList (word.map Char.toLower))

theorem isWord_of_toLower {c : Char} (h : Text.isWord c.toLower = true) :
    Text.isWord c = true := by
  unfold Char.toLower at h
  split at h
  · next hupper =>
    have hle : 65 ≤ c.toNat ∧ c.toNat ≤ 90 := hupper
    have hletter : c.isUpper = true := by
      simp [Char.isUpper, UInt32.le_iff_toNat_le]
      exact hle
    rw [Text.isWord, if_pos (by omega), Char.isAlphanum, Char.isAlpha, hletter]
    rfl
  · exact h

theorem mem_of_isMark {word : List Char} (h : isMark word = true) :
    word.map Char.toLower ∈ stringMarks.map String.toList := by
  rw [isMark, List.contains_iff_mem] at h
  rw [List.mem_map]
  exact ⟨_, h, String.toList_ofList⟩

theorem isWord_of_isMark {word : List Char} (h : isMark word = true) :
    ∀ c ∈ word, Text.isWord c = true := by
  have hmarks : ∀ mark ∈ stringMarks.map String.toList, mark.all Text.isWord = true := by decide
  intro c hc
  have hmark := List.all_eq_true.1 (hmarks _ (mem_of_isMark h))
  exact isWord_of_toLower (hmark _ (List.mem_map_of_mem hc))

theorem length_of_isMark {word : List Char} (h : isMark word = true) : word.length ≤ 2 := by
  have hmarks : ∀ mark ∈ stringMarks.map String.toList, mark.length ≤ 2 := by decide
  have hle := hmarks _ (mem_of_isMark h)
  rwa [List.length_map] at hle

theorem isWord_of_isQuote {c : Char} (h : isQuote c = true) : Text.isWord c = false := by
  rw [isQuote, Bool.or_eq_true, beq_iff_eq, beq_iff_eq] at h
  rcases h with rfl | rfl <;> decide

/-- Whether a text begins with a quote. -/
def startsWithQuote (cs : List Char) : Bool := (cs.head?.map isQuote).getD false

theorem exists_of_startsWithQuote {cs : List Char} (h : startsWithQuote cs = true) :
    ∃ q rest, cs = q :: rest ∧ isQuote q = true := by
  cases cs with
  | nil => exact absurd h nofun
  | cons q rest => exact ⟨q, rest, rfl, h⟩

/-- A mark holds only characters of a word, and a quote is none, so a mark in front of a quote ends
    where the word does. -/
theorem eq_length_of_isMark {word rest : List Char} (hword : ∀ c ∈ word, Text.isWord c = true)
    (hrest : ∀ c ∈ rest.head?, Text.isWord c = false) {n : Nat}
    (hmark : isMark ((word ++ rest).take n) = true)
    (hquote : startsWithQuote ((word ++ rest).drop n) = true) : n = word.length := by
  obtain ⟨q, others, hdrop, hq⟩ := exists_of_startsWithQuote hquote
  rcases Nat.lt_trichotomy n word.length with hlt | heq | hgt
  · -- the quote would be a character of the word
    rw [List.drop_append_of_le_length (Nat.le_of_lt hlt), List.drop_eq_getElem_cons hlt] at hdrop
    have hsame := (List.cons.inj hdrop).1
    have hno := isWord_of_isQuote hq
    rw [← hsame, hword _ (List.getElem_mem hlt)] at hno
    exact absurd hno nofun
  · exact heq
  · -- the character behind the word would be one of the mark
    rw [List.drop_append, List.drop_eq_nil_of_le (Nat.le_of_lt hgt), List.nil_append] at hdrop
    cases rest with
    | nil =>
      rw [List.drop_nil] at hdrop
      exact absurd hdrop nofun
    | cons c cs =>
      have hmem : c ∈ (word ++ c :: cs).take n := by
        rw [List.take_append, List.take_of_length_le (Nat.le_of_lt hgt), List.mem_append]
        right
        obtain ⟨k, hk⟩ : ∃ k, n - word.length = k + 1 := ⟨n - word.length - 1, by omega⟩
        rw [hk, List.take_succ_cons]
        exact List.mem_cons_self
      have hyes := isWord_of_isMark hmark c hmem
      rw [hrest c rfl] at hyes
      exact absurd hyes nofun

/-- The letters in front of the quote that begins a string are the whole word there. -/
theorem markLength?_append {word rest : List Char} (hword : ∀ c ∈ word, Text.isWord c = true)
    (hrest : ∀ c ∈ rest.head?, Text.isWord c = false) :
    markLength? (word ++ rest) =
      if isMark word && startsWithQuote rest then some word.length else none := by
  let begins (n : Nat) : Bool :=
    isMark ((word ++ rest).take n) && startsWithQuote ((word ++ rest).drop n)
  have hbegins : begins word.length = (isMark word && startsWithQuote rest) := by
    show (isMark ((word ++ rest).take word.length) &&
      startsWithQuote ((word ++ rest).drop word.length)) = _
    rw [List.take_left, List.drop_left]
  have honly : ∀ n, begins n = true → n = word.length := by
    intro n hn
    rw [Bool.and_eq_true] at hn
    exact eq_length_of_isMark hword hrest hn.1 hn.2
  -- a mark has two letters at most, so the only place that can match is among those tried
  show List.find? begins [0, 1, 2] = _
  cases hfound : List.find? begins [0, 1, 2] with
  | some n =>
    have hn := List.find?_some hfound
    obtain rfl := honly n hn
    rw [if_pos (hbegins ▸ hn)]
  | none =>
    rw [if_neg]
    intro hmark
    have hlength := length_of_isMark (Bool.and_eq_true _ _ ▸ hmark : _ ∧ _).1
    have hmem : word.length ∈ [0, 1, 2] := by
      simp only [List.mem_cons, List.not_mem_nil, or_false]
      omega
    exact List.find?_eq_none.1 hfound _ hmem (hbegins.trans hmark)

/-! ### The rest of a string -/

/-- What is read behind some characters has its length without them. -/
theorem map_add_eq_some {o : Option Nat} {n k : Nat} :
    o.map (· + k) = some (n + k) ↔ o = some n := by
  cases o <;> simp

theorem map_fst_add_eq_some {o : Option (Nat × Bool)} {n k : Nat} {joined : Bool} :
    (o.map fun end_ => (end_.1 + k, end_.2)) = some (n + k, joined) ↔ o = some (n, joined) := by
  cases o <;> simp [Prod.ext_iff]

section bodies
variable {quote : Char}

theorem bodyLength_pos {cs : List Char} {n : Nat} {joined : Bool}
    (h : bodyLength quote cs = some (n, joined)) : 0 < n := by
  rw [bodyLength.eq_def] at h
  repeat' split at h
  all_goals
    simp only [Option.map_eq_some_iff, Option.some.injEq, Prod.mk.injEq, reduceCtorEq] at h
  all_goals omega

theorem closeLength_pos {triple : Bool} {cs : List Char} {n : Nat}
    (h : closeLength quote triple cs = some n) : 0 < n := by
  rw [closeLength.eq_def] at h
  repeat' split at h
  all_goals simp only [Option.map_eq_some_iff, Option.some.injEq, reduceCtorEq] at h
  all_goals omega

/-- Three quotes close a string. -/
theorem three_le_closeLength {cs : List Char} {n : Nat}
    (h : closeLength quote true cs = some n) : 3 ≤ n := by
  -- what closes the string behind some characters closes it later still
  have hlater {m k : Nat} {rest : List Char}
      (ih : ∀ {n}, closeLength quote true rest = some n → 3 ≤ n)
      (h : (closeLength quote true rest).map (· + k) = some m) : 3 ≤ m := by
    obtain ⟨n, hn, hm⟩ := Option.map_eq_some_iff.1 h
    have hle := ih hn
    omega
  fun_induction closeLength quote true cs generalizing n with
  | case1 => exact absurd h nofun
  | case2 => exact absurd h nofun
  | case3 _ rest _ ih => exact hlater ih h
  | case4 => exact absurd h nofun
  | case5 rest _ _ _ => exact Nat.le_of_eq (Option.some.inj h)
  | case6 _ _ _ _ _ _ ih => exact hlater ih h
  | case7 _ hsingle => exact absurd rfl hsingle
  | case8 _ _ _ _ _ _ ih => exact hlater ih h

theorem closeLength_le {triple : Bool} {cs : List Char} {n : Nat}
    (h : closeLength quote triple cs = some n) : n ≤ cs.length := by
  have hlater {m k : Nat} {rest : List Char}
      (ih : ∀ {n}, closeLength quote triple rest = some n → n ≤ rest.length)
      (h : (closeLength quote triple rest).map (· + k) = some m) : m ≤ rest.length + k := by
    obtain ⟨n, hn, rfl⟩ := Option.map_eq_some_iff.1 h
    exact Nat.add_le_add_right (ih hn) k
  fun_induction closeLength quote triple cs generalizing n with
  | case1 => exact absurd h nofun
  | case2 => exact absurd h nofun
  | case3 _ rest _ ih =>
    have hle := hlater ih h
    exact hle
  | case4 => exact absurd h nofun
  | case5 rest _ htake _ _ =>
    have hlength := congrArg List.length htake
    rw [List.length_take] at hlength
    simp only [List.length_cons, List.length_nil] at hlength ⊢
    have hn := Option.some.inj h
    omega
  | case6 _ _ _ _ _ _ ih => exact hlater ih h
  | case7 =>
    rw [← Option.some.inj h, List.length_cons]
    omega
  | case8 _ _ _ _ _ _ ih => exact hlater ih h

theorem closeLength_backslash (triple : Bool) : closeLength quote triple ['\\'] = none := rfl

/-- Whatever stands behind the end of a string, it ends there. -/
theorem closeLength_append {triple : Bool} {b b' : List Char} :
    ∀ x : List Char, closeLength quote triple (x ++ b) = some x.length →
      closeLength quote triple (x ++ b') = some x.length
  | [], h => absurd (closeLength_pos h) (Nat.lt_irrefl 0)
  | c :: x, h => by
    by_cases hc : c = '\\'
    · subst hc
      cases x with
      | nil =>
        cases b with
        | nil =>
          rw [List.append_nil, closeLength_backslash] at h
          exact absurd h nofun
        | cons d b =>
          rw [List.singleton_append, closeLength_escape] at h
          split at h
          all_goals simp at h
      | cons d x =>
        simp only [List.cons_append, closeLength_escape, List.length_cons] at h ⊢
        split at h
        · exact absurd h nofun
        next hfeed =>
        rw [if_neg hfeed]
        exact map_add_eq_some.2 (closeLength_append x (map_add_eq_some.1 h))
    · simp only [List.cons_append, closeLength_of_ne hc, List.length_cons] at h ⊢
      have hskip (h : (closeLength quote triple (x ++ b)).map (· + 1) = some (x.length + 1)) :
          (closeLength quote triple (x ++ b')).map (· + 1) = some (x.length + 1) :=
        map_add_eq_some.2 (closeLength_append x (map_add_eq_some.1 h))
      by_cases hend : c = quote
      · rw [if_pos hend] at h ⊢
        cases triple with
        | false => exact h
        | true =>
          rw [if_pos rfl] at h ⊢
          -- of three quotes that close the string, all stand in front of its end
          by_cases hclose : (x ++ b).take 2 = [quote, quote]
          · rw [if_pos hclose] at h
            have hx : 2 ≤ x.length := by
              have hlength := Option.some.inj h
              omega
            rw [List.take_append_of_le_length hx] at hclose ⊢
            rw [if_pos hclose, h]
          · -- the quotes that do close it are still to come
            rw [if_neg hclose] at h
            have hthree := three_le_closeLength (map_add_eq_some.1 h)
            have hx : 2 ≤ x.length := by omega
            rw [List.take_append_of_le_length hx] at hclose ⊢
            rw [if_neg hclose]
            exact hskip h
      · rw [if_neg hend] at h ⊢
        exact hskip h
termination_by x => x.length

/-- Another text behind the end of a string does not move it. -/
theorem closeLength_of_replaced {triple : Bool} {cs : List Char} {n : Nat}
    (h : closeLength quote triple cs = some n) (b : List Char) :
    closeLength quote triple (cs.take n ++ b) = some n := by
  have hlength : (cs.take n).length = n := List.length_take_of_le (closeLength_le h)
  rw [← List.take_append_drop n cs] at h
  rw [closeLength_append (cs.take n) (h.trans (congrArg some hlength.symm)), hlength]

variable (hquote : quote ≠ '\\')
include hquote

theorem bodyLength_backslash : bodyLength quote ['\\'] = none := by
  show (if '\\' = quote then _ else _) = _
  rw [if_neg (Ne.symm hquote)]
  rfl

/-- Whatever stands behind the end of a string, it ends there. -/
theorem bodyLength_append {b b' : List Char} {joined : Bool} :
    ∀ x : List Char, bodyLength quote (x ++ b) = some (x.length, joined) →
      bodyLength quote (x ++ b') = some (x.length, joined)
  | [], h => absurd (bodyLength_pos h) (Nat.lt_irrefl 0)
  | c :: x, h => by
    by_cases hc : c = '\\'
    · subst hc
      cases x with
      | nil =>
        cases b with
        | nil =>
          rw [List.append_nil, bodyLength_backslash hquote] at h
          exact absurd h nofun
        | cons d b =>
          rw [List.singleton_append, bodyLength_escape] at h
          repeat' split at h
          all_goals simp at h
      | cons d x =>
        simp only [List.cons_append, bodyLength_escape, List.length_cons] at h ⊢
        split at h
        · next hfeed => rw [if_pos hfeed, h]
        next hfeed =>
        rw [if_neg hfeed]
        cases x with
        | nil =>
          -- at least one character more than these two is read
          split at h
          · simp at h
          · obtain ⟨⟨n, _⟩, hn, heq⟩ := Option.map_eq_some_iff.1 h
            have hpos := bodyLength_pos hn
            have hlength := (Prod.mk.inj heq).1
            simp at hlength
            omega
        | cons e x =>
          -- the character behind the skipped one is in front of the end as well
          have hhead (b : List Char) : (e :: x ++ b).head? = some '\n' ↔ e = '\n' := by simp
          by_cases hreturn : d = '\r' ∧ e = '\n'
          · rw [if_pos ⟨hreturn.1, (hhead b).2 hreturn.2⟩] at h
            rw [if_pos ⟨hreturn.1, (hhead b').2 hreturn.2⟩, h]
          · rw [if_neg (fun hno => hreturn ⟨hno.1, (hhead b).1 hno.2⟩)] at h
            rw [if_neg (fun hno => hreturn ⟨hno.1, (hhead b').1 hno.2⟩)]
            exact map_fst_add_eq_some.2 (bodyLength_append (e :: x) (map_fst_add_eq_some.1 h))
    · simp only [List.cons_append, bodyLength_of_ne hc, List.length_cons] at h ⊢
      split at h
      · next hend => rw [if_pos hend, h]
      next hend =>
      split at h
      · exact absurd h nofun
      next hfeed =>
      rw [if_neg hend, if_neg hfeed]
      exact map_fst_add_eq_some.2 (bodyLength_append x (map_fst_add_eq_some.1 h))
termination_by x => x.length

omit hquote

/-- A string that is not closed is not closed with another character in front either. -/
theorem bodyLength_cons_eq_none {c : Char} (hc : c ≠ '\\') {cs cs' : List Char}
    (h : bodyLength quote (c :: cs) = none)
    (hrest : bodyLength quote cs = none → bodyLength quote cs' = none) :
    bodyLength quote (c :: cs') = none := by
  rw [bodyLength_of_ne hc] at h ⊢
  split at h
  · exact absurd h nofun
  next hend =>
  rw [if_neg hend]
  split at h
  · next hfeed => rw [if_pos hfeed]
  · next hfeed =>
    rw [if_neg hfeed, hrest (Option.map_eq_none_iff.1 h)]
    rfl

/-- Characters that are neither the quote nor a backslash do not close a string. -/
theorem bodyLength_skip {front cs : List Char} (hfront : ∀ c ∈ front, c ≠ '\\' ∧ c ≠ quote)
    (h : bodyLength quote cs = none) : bodyLength quote (front ++ cs) = none := by
  induction front with
  | nil => exact h
  | cons c front ih =>
    obtain ⟨hc, hrest⟩ := List.forall_mem_cons.1 hfront
    rw [List.cons_append, bodyLength_of_ne hc.1, if_neg hc.2, ih hrest]
    split <;> rfl

/-- Whether a return in front of the rest of a text ends the line is the same behind insertions. -/
theorem Qualified.head?_eq_feed {cs cs' : List Char} (h : Qualified cs cs')
    (hfeed : cs'.head? = some '\n') : cs.head? = some '\n' := by
  cases h with
  | nil => exact hfeed
  | keep c rest => exact hfeed
  | insert hc rest => exact absurd (Option.some.inj hfeed) (by decide)

/-- A string that is not closed in time is not closed behind insertions either. -/
theorem bodyLength_eq_none (hquote : isQuote quote = true) {cs cs' : List Char}
    (hcs : Qualified cs cs') (h : bodyLength quote cs = none) : bodyLength quote cs' = none := by
  -- none of the characters of `self.` and of names is the quote or a backslash
  have hself : ∀ c ∈ "self.".toList, c ≠ '\\' ∧ c ≠ quote := by
    rw [isQuote, Bool.or_eq_true, beq_iff_eq, beq_iff_eq] at hquote
    rcases hquote with rfl | rfl <;> simp
  have hname {c : Char} (hc : isNameStart c = true) : c ≠ '\\' ∧ c ≠ quote :=
    ⟨ne_of_isNameStart hc (by decide), ne_of_isNameStart hc (isWord_of_isQuote hquote)⟩
  cases hcs with
  | nil => exact h
  | insert hc rest =>
    exact bodyLength_skip hself
      (bodyLength_cons_eq_none (hname hc).1 h (bodyLength_eq_none hquote rest))
  | @keep c cs cs' rest =>
    by_cases hc : c = '\\'
    · subst hc
      -- a backslash skips a character, which may be the first one of an insertion
      cases rest with
      | nil => exact h
      | @keep d cs cs' rest =>
        rw [bodyLength_escape] at h ⊢
        split at h
        · exact absurd h nofun
        next hfeed =>
        split at h
        · exact absurd h nofun
        next hreturn =>
        rw [if_neg hfeed, if_neg fun hno => hreturn ⟨hno.1, rest.head?_eq_feed hno.2⟩,
          bodyLength_eq_none hquote rest (Option.map_eq_none_iff.1 h)]
        rfl
      | @insert d hd cs cs' rest =>
        rw [bodyLength_escape] at h
        rw [if_neg (ne_of_isNameStart hd (by decide)),
          if_neg (fun hreturn => ne_of_isNameStart hd (by decide) hreturn.1)] at h
        have hrest := bodyLength_eq_none hquote rest (Option.map_eq_none_iff.1 h)
        have hskipped : ∀ c ∈ ['e', 'l', 'f', '.', d], c ≠ '\\' ∧ c ≠ quote := by
          intro c hmem
          rcases List.mem_append.1 (show c ∈ ['e', 'l', 'f', '.'] ++ [d] from hmem) with hmem | hmem
          · exact hself c (List.mem_cons_of_mem _ hmem)
          · exact List.mem_singleton.1 hmem ▸ hname hd
        have hbehind := bodyLength_skip hskipped hrest
        show bodyLength quote ('\\' :: 's' :: (['e', 'l', 'f', '.', d] ++ cs')) = none
        rw [bodyLength_escape, if_neg (by decide),
          if_neg (fun hreturn => absurd hreturn.1 (by decide)), hbehind]
        rfl
    · exact bodyLength_cons_eq_none hc h (bodyLength_eq_none hquote rest)
termination_by cs.length

end bodies

/-! ### Strings at a place -/

section places
variable {word : List Char} (hword : ∀ c ∈ word, Text.isWord c = true)
include hword

theorem markLength?_word : markLength? word = none := by
  have hnone : ∀ c ∈ ([] : List Char).head?, Text.isWord c = false := nofun
  have hmark := markLength?_append hword hnone
  rw [List.append_nil, show startsWithQuote [] = false from rfl, Bool.and_false] at hmark
  exact hmark

theorem markLength?_quote {quote : Char} (hquote : Text.isWord quote = false)
    (rest : List Char) :
    markLength? (word ++ quote :: rest) =
      if isMark word && isQuote quote then some word.length else none :=
  markLength?_append hword (by simpa using hquote)

theorem tripleAt_word : Lexeme.tripleAt word = none := by
  rw [Lexeme.tripleAt, markLength?_word hword]

theorem stringAt_word : Lexeme.stringAt word = none := by
  rw [Lexeme.stringAt, markLength?_word hword]

theorem tripleAt_append {quote : Char} (hquote : Text.isWord quote = false) (rest : List Char) :
    Lexeme.tripleAt (word ++ quote :: rest) =
      if isMark word && isQuote quote && [quote, quote].isPrefixOf rest then
        some (.tripleQuote quote, word.length + 3)
      else none := by
  rw [Lexeme.tripleAt, markLength?_quote hword hquote]
  by_cases hstarts : (isMark word && isQuote quote) = true
  · rw [if_pos hstarts, hstarts, Bool.true_and]
    simp only [List.drop_left]
    -- two more characters are looked at, if there are two
    match rest with
    | [] => rfl
    | [_] => simp
    | a :: b :: rest =>
      by_cases hsame : quote = a ∧ a = b
      · obtain ⟨rfl, rfl⟩ := hsame
        simp
      · show (if quote = a ∧ a = b then _ else _) = _
        rw [if_neg hsame, if_neg]
        simpa using fun h₁ h₂ => hsame ⟨h₁, h₁ ▸ h₂⟩
  · rw [if_neg hstarts, Bool.eq_false_iff.2 hstarts, Bool.false_and]
    rfl

theorem stringAt_append {quote : Char} (hquote : Text.isWord quote = false) (rest : List Char) :
    Lexeme.stringAt (word ++ quote :: rest) =
      if isMark word && isQuote quote then
        (bodyLength quote rest).map fun end_ =>
          (if end_.2 then .openString quote else .string, word.length + 1 + end_.1)
      else none := by
  rw [Lexeme.stringAt, markLength?_quote hword hquote]
  by_cases hstarts : (isMark word && isQuote quote) = true
  · rw [if_pos hstarts, if_pos hstarts]
    simp only [List.drop_left]
  · rw [if_neg hstarts, if_neg hstarts]

theorem lt_of_tripleAt {rest : List Char} (hrest : ∀ c ∈ rest.head?, Text.isWord c = false)
    {found : Lexeme × Nat} (h : Lexeme.tripleAt (word ++ rest) = some found) :
    word.length < found.2 := by
  cases rest with
  | nil =>
    rw [List.append_nil, tripleAt_word hword] at h
    exact absurd h nofun
  | cons quote rest =>
    rw [tripleAt_append hword (hrest quote rfl)] at h
    split at h
    · obtain rfl := Option.some.inj h
      show word.length < word.length + 3
      omega
    · exact absurd h nofun

theorem lt_of_stringAt {rest : List Char} (hrest : ∀ c ∈ rest.head?, Text.isWord c = false)
    {found : Lexeme × Nat} (h : Lexeme.stringAt (word ++ rest) = some found) :
    word.length < found.2 := by
  cases rest with
  | nil =>
    rw [List.append_nil, stringAt_word hword] at h
    exact absurd h nofun
  | cons quote rest =>
    rw [stringAt_append hword (hrest quote rfl)] at h
    split at h
    · obtain ⟨end_, -, rfl⟩ := Option.map_eq_some_iff.1 h
      show word.length < word.length + 1 + end_.1
      omega
    · exact absurd h nofun

/-- Three quotes behind a word begin a string in a qualified text exactly if they do in the text. -/
theorem tripleAt_qualified {rest rest' : List Char} (h : Qualified rest rest')
    (hrest : ∀ c ∈ rest.head?, Text.isWord c = false) :
    Lexeme.tripleAt (word ++ rest') = Lexeme.tripleAt (word ++ rest) := by
  cases rest with
  | nil =>
    cases h
    rfl
  | cons quote rest =>
    have hquote := hrest quote rfl
    obtain ⟨rest', rfl, hsame⟩ := h.of_cons hquote
    have hquotes : [quote, quote].isPrefixOf rest' = [quote, quote].isPrefixOf rest :=
      hsame.isPrefixOf_eq (by simp [hquote])
    rw [tripleAt_append hword hquote, tripleAt_append hword hquote, hquotes]

/-- A string that ends in front of all insertions, if there is one, keeps its length. -/
theorem stringAt_qualified {quote : Char} (hquote : Text.isWord quote = false)
    {x b b' : List Char} (hb : Qualified b b')
    (h : ∀ found, Lexeme.stringAt (word ++ quote :: (x ++ b)) = some found →
      found.2 = word.length + 1 + x.length) :
    Lexeme.stringAt (word ++ quote :: (x ++ b')) =
      Lexeme.stringAt (word ++ quote :: (x ++ b)) := by
  rw [stringAt_append hword hquote] at h
  rw [stringAt_append hword hquote, stringAt_append hword hquote]
  -- where no string begins behind the word, none does in either text
  by_cases hstarts : (isMark word && isQuote quote) = true
  · rw [if_pos hstarts] at h
    rw [if_pos hstarts, if_pos hstarts]
    have hisQuote : isQuote quote = true := (Bool.and_eq_true _ _ ▸ hstarts : _ ∧ _).2
    cases hbody : bodyLength quote (x ++ b) with
    | none => rw [bodyLength_eq_none hisQuote (hb.append x) hbody]
    | some end_ =>
      obtain ⟨n, joined⟩ := end_
      have hlength := h _ (by rw [hbody]; rfl)
      obtain rfl : n = x.length := Nat.add_left_cancel hlength
      have hquote : quote ≠ '\\' := by
        rintro rfl
        exact absurd hisQuote (by decide)
      rw [bodyLength_append hquote x hbody]
  · rw [if_neg hstarts, if_neg hstarts]

end places

end LayerGraph.Flow
