import LayerGraph.Proofs.Flow.Lines

/-! # Quotes

    A string token ends with the quote that opened it, and that stands in the lines from which the
    token was read. So every property of the quotes of a text is one of the last characters of its
    strings (`endsIn_of_mem_strings`): each string ends in a quote, and a text without quotes has no
    strings.
-/

namespace LayerGraph.Flow

/-! ### The strings of tokens -/

/-- The texts of the string tokens, in order. -/
def strings (ts : List Token) : List (List Char) :=
  (ts.filter (·.kind == .string)).map (·.text)

theorem strings_append (ts us : List Token) : strings (ts ++ us) = strings ts ++ strings us := by
  rw [strings, List.filter_append, List.map_append]
  rfl

theorem strings_cons (t : Token) (ts : List Token) :
    strings (t :: ts) = strings [t] ++ strings ts :=
  strings_append [t] ts

theorem strings_eq_nil {ts : List Token} (h : ∀ t ∈ ts, t.kind ≠ .string) : strings ts = [] := by
  rw [strings, List.filter_eq_nil_iff.2 fun t ht => by simpa using h t ht, List.map_nil]

/-! ### Ends of strings -/

section ends
variable {quote : Char} {triple : Bool}

theorem getLast?_take_succ {c last : Char} {cs : List Char} {n : Nat}
    (h : (cs.take n).getLast? = some last) : ((c :: cs).take (n + 1)).getLast? = some last := by
  rw [List.take_succ_cons, List.getLast?_cons, h]
  rfl

/-- A string that may go on over lines ends with its quote. -/
theorem getLast?_of_closeLength {cs : List Char} {n : Nat}
    (h : closeLength quote triple cs = some n) : (cs.take n).getLast? = some quote := by
  have hlater {c : Char} {m : Nat} {rest : List Char}
      (ih : ∀ {n}, closeLength quote triple rest = some n →
        (rest.take n).getLast? = some quote)
      (h : (closeLength quote triple rest).map (· + 1) = some m) :
      ((c :: rest).take m).getLast? = some quote := by
    obtain ⟨n, hn, rfl⟩ := Option.map_eq_some_iff.1 h
    exact getLast?_take_succ (ih hn)
  fun_induction closeLength quote triple cs generalizing n with
  | case1 => cases h
  | case2 => cases h
  | case3 c rest _ ih =>
    obtain ⟨n, hn, rfl⟩ := Option.map_eq_some_iff.1 h
    exact getLast?_take_succ (getLast?_take_succ (ih hn))
  | case4 => cases h
  | case5 rest _ htake _ _ =>
    obtain rfl := Option.some.inj h
    rw [List.take_succ_cons, htake]
    rfl
  | case6 _ _ _ _ _ _ ih => exact hlater ih h
  | case7 =>
    obtain rfl := Option.some.inj h
    rfl
  | case8 _ _ _ _ _ _ ih => exact hlater ih h

/-- A string that is closed on its line ends with its quote. -/
theorem getLast?_of_bodyLength {cs : List Char} {n : Nat}
    (h : bodyLength quote cs = some (n, false)) : (cs.take n).getLast? = some quote := by
  fun_induction bodyLength quote cs generalizing n with
  | case1 => exact absurd h nofun
  | case2 => exact absurd h nofun
  | case3 => exact absurd h nofun
  | case4 c rest _ _ ih =>
    obtain ⟨⟨n, _⟩, hn, heq⟩ := Option.map_eq_some_iff.1 h
    obtain ⟨rfl, rfl⟩ := Prod.mk.inj heq
    exact getLast?_take_succ (getLast?_take_succ (ih hn))
  | case5 rest =>
    obtain ⟨rfl, -⟩ := Prod.mk.inj (Option.some.inj h)
    rfl
  | case6 => exact absurd h nofun
  | case7 c rest _ _ _ _ _ ih =>
    obtain ⟨⟨n, _⟩, hn, heq⟩ := Option.map_eq_some_iff.1 h
    obtain ⟨rfl, rfl⟩ := Prod.mk.inj heq
    exact getLast?_take_succ (ih hn)

end ends

/-- Whether the last character of a text has a property. -/
def EndsIn (Q : Char → Prop) (cs : List Char) : Prop := ∃ c, Q c ∧ cs.getLast? = some c

/-- Whether a text holds the quote that a lexeme tells of. A string that is closed on its line ends
    with its quote. -/
def Lexeme.HasQuote (cs : List Char) (found : Lexeme × Nat) : Prop :=
  match found.1 with
  | .string => EndsIn (isQuote · = true) (cs.take found.2)
  | .openString quote => isQuote quote = true ∧ quote ∈ cs
  | .tripleQuote quote => isQuote quote = true ∧ quote ∈ cs
  | _ => True

theorem isQuote_of_markLength? {cs rest : List Char} {marks : Nat} {quote : Char}
    (h : markLength? cs = some marks) (hrest : cs.drop marks = quote :: rest) :
    isQuote quote = true ∧ quote ∈ cs := by
  unfold markLength? at h
  have hmark := List.find?_some h
  rw [hrest, Bool.and_eq_true] at hmark
  exact ⟨hmark.2, List.mem_of_mem_drop (hrest ▸ List.mem_cons_self)⟩

namespace Lexeme

theorem hasQuote_of_tripleAt {cs : List Char} (found : Lexeme × Nat)
    (h : tripleAt cs = some found) : HasQuote cs found := by
  unfold tripleAt at h
  split at h
  · exact absurd h nofun
  next marks hmarks =>
  split at h
  · next a b c rest hdrop =>
    split at h
    · obtain rfl := Option.some.inj h
      exact isQuote_of_markLength? hmarks hdrop
    · exact absurd h nofun
  · exact absurd h nofun

theorem hasQuote_of_stringAt {cs : List Char} (found : Lexeme × Nat)
    (h : stringAt cs = some found) : HasQuote cs found := by
  unfold stringAt at h
  split at h
  · exact absurd h nofun
  next marks hmarks =>
  split at h
  · exact absurd h nofun
  next quote rest hdrop =>
  obtain ⟨⟨n, joined⟩, hbody, rfl⟩ := Option.map_eq_some_iff.1 h
  have hquote := isQuote_of_markLength? hmarks hdrop
  cases joined with
  | true => exact hquote
  | false =>
    refine ⟨quote, hquote.1, ?_⟩
    have hlast : ((cs.drop marks).take (n + 1)).getLast? = some quote :=
      hdrop ▸ getLast?_take_succ (getLast?_of_bodyLength hbody)
    show (cs.take (marks + 1 + n)).getLast? = some quote
    rw [Nat.add_assoc, Nat.add_comm 1 n, List.take_add, List.getLast?_append, hlast]
    rfl

/-- What begins a string is a quote. -/
theorem hasQuote_of_next? {cs : List Char} (found : Lexeme × Nat) (h : next? cs = some found) :
    HasQuote cs found := by
  have hother {kind : Lexeme} {n : Nat} (hkind : ∀ m, HasQuote cs (kind, m))
      (found : Lexeme × Nat) (h : ofLength kind n = some found) : HasQuote cs found := by
    obtain ⟨_, m⟩ := found
    obtain rfl := (of_ofLength _ h).1
    exact hkind m
  unfold next? at h
  revert found
  exact of_orElse (hother fun _ => trivial) <|
    of_orElse (hother fun _ => trivial) <|
    of_orElse hasQuote_of_tripleAt <| of_orElse (hother fun _ => trivial) <|
    of_orElse (hother fun _ => trivial) <|
    of_orElse (hother fun _ => trivial) <|
    of_orElse hasQuote_of_stringAt (hother fun _ => trivial)

end Lexeme

theorem suffix_of_lexemeStep {st next : LexState} {line column n : Nat} {lexeme : Lexeme}
    {cs behind : List Char} {token? : Option Token}
    (hstep : lexemeStep st line column lexeme (cs.take n) (cs.drop n) = (token?, next, behind)) :
    behind <:+ cs := by
  obtain ⟨taken, htaken⟩ := exists_taken hstep
  have hsuffix : behind <:+ cs.drop n := ⟨taken, htaken.symm⟩
  exact hsuffix.trans (List.drop_suffix _ _)

theorem ne_of_isQuote {quote c : Char} (h : isQuote quote = true) (hc : isQuote c = false) :
    quote ≠ c := by
  rintro rfl
  rw [h] at hc
  exact absurd hc nofun

theorem wordKind_ne_string (text : List Char) : wordKind text ≠ .string := by
  unfold wordKind
  repeat' split
  all_goals exact nofun

/-! ### Quotes of lines -/

section quotes
variable {Q : Char → Prop} {line : Nat}

/-- Whether every quote in a text has a property. -/
def QuotesAll (Q : Char → Prop) (cs : List Char) : Prop := ∀ c ∈ cs, isQuote c = true → Q c

/-- Whether an open string has a quote with a property. -/
def LexState.OpensWith (Q : Char → Prop) (st : LexState) : Prop := ∀ o ∈ st.open?, Q o.quote

theorem QuotesAll.subset {cs ds : List Char} (h : QuotesAll Q cs) (hsub : ds ⊆ cs) :
    QuotesAll Q ds := fun c hc => h c (hsub hc)

theorem LexState.opensWith_of_none {st : LexState} (h : st.open? = none) : st.OpensWith Q := by
  intro o ho
  rw [h] at ho
  exact absurd ho nofun

theorem mem_strings {ts : List Token} {s : List Char} (h : s ∈ strings ts) :
    ∃ t ∈ ts, t.kind = .string ∧ t.text = s := by
  obtain ⟨t, ht, rfl⟩ := List.mem_map.1 h
  obtain ⟨ht, hkind⟩ := List.mem_filter.1 ht
  exact ⟨t, ht, beq_iff_eq.1 hkind, rfl⟩

/-- What a lexeme does: its string ends with a quote of the line, and so does one that it opens. -/
theorem endsIn_of_lexemeStep {st next : LexState} (hst : st.OpensWith Q) {lexeme : Lexeme}
    {n column : Nat} {cs behind : List Char} {token? : Option Token} (hcs : QuotesAll Q cs)
    (hnext : Lexeme.next? cs = some (lexeme, n))
    (hstep : lexemeStep st line column lexeme (cs.take n) (cs.drop n) = (token?, next, behind)) :
    (∀ t ∈ token?, t.kind = .string → EndsIn Q t.text) ∧ next.OpensWith Q := by
  have hquote := Lexeme.hasQuote_of_next? _ hnext
  cases lexeme with
  | continuation | comment | number =>
    cases hstep
    exact ⟨by simp, hst⟩
  | lineEnd =>
    cases hstep
    refine ⟨fun t ht hkind => ?_, hst⟩
    obtain rfl := Option.some.inj ht
    dsimp only at hkind
    split at hkind <;> exact absurd hkind nofun
  | operator =>
    cases hstep
    refine ⟨by simp, ?_⟩
    unfold LexState.afterOperator
    repeat' split
    all_goals exact hst
  | word =>
    cases hstep
    refine ⟨fun t ht hkind => ?_, hst⟩
    obtain rfl := Option.some.inj ht
    exact absurd hkind (wordKind_ne_string _)
  | string =>
    -- the quote at its end is one of the line, whose quotes all have the property
    cases hstep
    refine ⟨fun t ht _ => ?_, hst⟩
    obtain rfl := Option.some.inj ht
    obtain ⟨quote, hquote, hlast⟩ := hquote
    exact ⟨quote, hcs quote (List.mem_of_mem_take (List.mem_of_getLast? hlast)) hquote, hlast⟩
  | openString quote =>
    cases hstep
    refine ⟨by simp, fun o ho => ?_⟩
    obtain rfl := Option.some.inj ho
    exact hcs quote hquote.2 hquote.1
  | tripleQuote quote =>
    have hQ : Q quote := hcs quote hquote.2 hquote.1
    dsimp only [lexemeStep] at hstep
    cases hclose : closeLength quote true (cs.drop n) with
    | some m =>
      rw [hclose] at hstep
      cases hstep
      refine ⟨fun t ht _ => ?_, hst⟩
      obtain rfl := Option.some.inj ht
      refine ⟨quote, hQ, ?_⟩
      rw [List.getLast?_append, getLast?_of_closeLength hclose]
      rfl
    | none =>
      rw [hclose] at hstep
      cases hstep
      refine ⟨by simp, fun o ho => ?_⟩
      obtain rfl := Option.some.inj ho
      exact hQ

/-- The strings of the rest of a line. -/
theorem Scanned.endsIn {st final : LexState} {column : Nat} {cs : List Char} {tokens : List Token}
    (h : Scanned line st column cs tokens final) (hcs : QuotesAll Q cs) (hst : st.OpensWith Q) :
    (∀ s ∈ strings tokens, EndsIn Q s) ∧ final.OpensWith Q := by
  induction h with
  | blank => exact ⟨nofun, hst⟩
  | stray _ _ _ _ _ ih => exact ih (hcs.subset (List.subset_cons_self _ _)) hst
  | @lexeme st next final column length c cs blanks behind lexeme token? tokens _ _ hnext hstep _
      ih =>
    have hline : QuotesAll Q (c :: cs) := hcs.subset (List.subset_append_right _ _)
    obtain ⟨htoken, hopen⟩ := endsIn_of_lexemeStep hst hline hnext hstep
    obtain ⟨hrest, hfinal⟩ := ih (hline.subset (suffix_of_lexemeStep hstep).subset) hopen
    refine ⟨fun s hs => ?_, hfinal⟩
    rw [strings_append, List.mem_append] at hs
    rcases hs with hs | hs
    · obtain ⟨t, ht, hkind, rfl⟩ := mem_strings hs
      exact htoken t (Option.mem_toList.1 ht) hkind
    · exact hrest s hs

theorem endsIn_of_scan {st : LexState} {cs : List Char} (hcs : QuotesAll Q cs)
    (hst : st.OpensWith Q) {fuel : Nat} (hfuel : cs.length ≤ fuel) (line column : Nat) :
    (∀ s ∈ strings (scan fuel st line column cs).1, EndsIn Q s) ∧
      (scan fuel st line column cs).2.OpensWith Q :=
  Scanned.endsIn (LineReading.scan_rest st column cs hfuel) hcs hst

/-- The strings of a line inside an open string. -/
theorem endsIn_of_continueString (st : LexState) {o : OpenString} {text : List Char}
    (htext : QuotesAll Q text) (hquote : Q o.quote) (line : Nat) :
    (∀ s ∈ strings (continueString st o line text).1, EndsIn Q s) ∧
      (continueString st o line text).2.OpensWith Q := by
  cases hclose : closeLength o.quote o.triple text with
  | some n =>
    have hclosed : ({ st with open? := none, strict := false } : LexState).OpensWith Q :=
      LexState.opensWith_of_none rfl
    obtain ⟨hrest, hfinal⟩ := endsIn_of_scan (htext.subset (List.drop_subset n text))
      hclosed ((List.drop_suffix n text).length_le) line n
    rw [continueString_of_some st line hclose]
    refine ⟨fun s hs => ?_, hfinal⟩
    rw [strings_cons, List.mem_append] at hs
    rcases hs with hs | hs
    · obtain rfl := List.mem_singleton.1 hs
      refine ⟨o.quote, hquote, ?_⟩
      rw [List.getLast?_append, getLast?_of_closeLength hclose]
      rfl
    · exact hrest s hs
  | none =>
    rw [continueString_of_none st line hclose]
    split
    · exact ⟨nofun, LexState.opensWith_of_none rfl⟩
    · refine ⟨nofun, fun o' ho' => ?_⟩
      obtain rfl := Option.some.inj ho'
      exact hquote

/-- The strings of a line. -/
theorem endsIn_of_lexLine {st next : LexState} {text : List Char} {tokens : List Token}
    (htext : QuotesAll Q text) (hst : st.OpensWith Q)
    (h : lexLine st line text = .ok (tokens, next)) :
    (∀ s ∈ strings tokens, EndsIn Q s) ∧ next.OpensWith Q := by
  cases hopen : st.open? with
  | some o =>
    have hall := endsIn_of_continueString st htext (hst o hopen) line
    rw [lexLine_of_some hopen] at h
    rwa [Except.ok.inj h] at hall
  | none =>
    have hnone {st : LexState} (hopen : st.open? = none) : st.OpensWith Q :=
      LexState.opensWith_of_none hopen
    rw [lexLine_of_none hopen] at h
    split at h
    · rcases statementLine_cases h with ⟨-, rfl, rfl⟩ | ⟨-, layout, inner, hindent, rfl, rfl⟩
      · rw [strings_eq_nil fun t ht => (kind_of_mem_emptyLine ht).2]
        exact ⟨nofun, hst⟩
      · rw [strings_append, strings_eq_nil fun t ht => (kind_of_mem_indentStep hindent ht).2]
        exact endsIn_of_scan (htext.subset (List.dropWhile_suffix _).subset)
          (hnone ((open?_of_indentStep hindent).trans hopen)) (Nat.le_refl _) _ _
    · have hjoined : ({ st with joined := false } : LexState).OpensWith Q := hnone hopen
      have hall := endsIn_of_scan htext hjoined (Nat.le_refl _) line 0
      rwa [Except.ok.inj h] at hall

/-- The strings of lines end with quotes of the lines. -/
theorem endsIn_of_mem_strings {ls : List (List Char)} (hls : ∀ text ∈ ls, QuotesAll Q text)
    {st : LexState} (hst : st.OpensWith Q) {tokens : List Token}
    (h : lexLines st line ls = .ok tokens) : ∀ s ∈ strings tokens, EndsIn Q s := by
  induction ls generalizing st line tokens with
  | nil =>
    -- a string that is open at the end is no token
    rw [strings_eq_nil fun t ht => (kind_of_mem_finish h ht).2]
    exact nofun
  | cons text rest ih =>
    obtain ⟨htext, hrest⟩ := List.forall_mem_cons.1 hls
    obtain ⟨first, next, others, hfirst, hothers, rfl⟩ := exists_of_lexLines h
    have hline : QuotesAll Q (text ++ ['\n']) := by
      refine List.forall_mem_append.2 ⟨htext, List.forall_mem_singleton.2 fun hbreak => ?_⟩
      exact absurd hbreak (by decide)
    obtain ⟨hstrings, hnext⟩ := endsIn_of_lexLine hline hst hfirst
    rw [strings_append]
    exact List.forall_mem_append.2 ⟨hstrings, ih hrest hnext hothers⟩

/-- Every string ends in a quote. -/
theorem endsIn_quote_of_mem_strings {ls : List (List Char)} {tokens : List Token}
    (h : Flow.tokens ls = .ok tokens) {s : List Char} (hs : s ∈ strings tokens) :
    EndsIn (isQuote · = true) s :=
  endsIn_of_mem_strings (fun _ _ _ _ hc => hc) (LexState.opensWith_of_none rfl) h s hs

/-- Without quotes there are no strings. -/
theorem strings_of_quoteless {ls : List (List Char)}
    (hls : ∀ text ∈ ls, ∀ c ∈ text, isQuote c = false) {st : LexState} (hopen : st.open? = none)
    {tokens : List Token} (h : lexLines st line ls = .ok tokens) : strings tokens = [] := by
  refine List.eq_nil_iff_forall_not_mem.2 fun s hs => ?_
  have hnone : ∀ text ∈ ls, QuotesAll (fun _ => False) text := by
    intro text htext c hc hquote
    rw [hls text htext c hc] at hquote
    exact absurd hquote nofun
  obtain ⟨_, hfalse, _⟩ := endsIn_of_mem_strings hnone (LexState.opensWith_of_none hopen) h s hs
  exact hfalse

end quotes

end LayerGraph.Flow
