import LayerGraph.Proofs.Flow.Quotes
import LayerGraph.Proofs.Fragment.Blocks
import LayerGraph.Proofs.Tidy

/-! # Strings in indented lines

    Statements are indented line by line, also where a string goes on over several lines. So a
    string that ends on its line is left alone, and the other lines of a longer one are padded
    (`strings_of_body`). Nothing else about the strings depends on the indentation: the reader
    finds the same lexemes behind more blanks, and a space neither closes a string nor escapes what
    stands behind it.
-/

namespace LayerGraph.Flow

open Fragment (indentLine indentWidth)
open Text (lines unlines isBlankText)

/-! ### Padded texts -/

section padding
variable (level : Nat)

/-- Lines of which all but the first are indented. -/
def padLines : List (List Char) → List (List Char)
  | [] => []
  | first :: others => first :: others.map (indentLine level)

/-- A text that begins inside a line, when its lines are indented: all lines but the first get the
    spaces, unless they are blank. -/
def padded (text : List Char) : List Char := unlines (padLines level (lines text))

variable {level}

theorem padLines_append {first : List Char} (others ls : List (List Char)) :
    padLines level (first :: others ++ ls) =
      padLines level (first :: others) ++ ls.map (indentLine level) := by
  rw [List.cons_append, padLines, padLines, List.map_append, List.cons_append]

theorem lines_padded (text : List Char) :
    lines (padded level text) = padLines level (lines text) := by
  have hlines : ∀ line ∈ lines text, '\n' ∉ line := fun line => Text.not_mem_of_mem_lines
  rw [padded]
  cases h : lines text with
  | nil => exact absurd h (Text.lines_ne_nil text)
  | cons first others =>
    rw [h, List.forall_mem_cons] at hlines
    refine Text.lines_unlines (List.cons_ne_nil _ _) (List.forall_mem_cons.2 ⟨hlines.1, ?_⟩)
    exact List.forall_mem_map.2 fun line hline =>
      Fragment.not_mem_indentLine level (hlines.2 line hline)

theorem eq_of_lines {xs ys : List Char} (h : lines xs = lines ys) : xs = ys := by
  rw [← Text.unlines_lines xs, h, Text.unlines_lines]

/-- A text on one line is not padded. -/
theorem padded_of_not_mem {text : List Char} (h : '\n' ∉ text) : padded level text = text := by
  apply eq_of_lines
  rw [lines_padded, Fragment.lines_of_not_mem h]
  rfl

/-- Behind a line break, one more line is indented. -/
theorem padded_append_break (text : List Char) {line : List Char} (h : '\n' ∉ line) :
    padded level (text ++ '\n' :: line) = padded level text ++ '\n' :: indentLine level line := by
  apply eq_of_lines
  rw [lines_padded, Text.lines_append_break, Text.lines_append_break, lines_padded,
    Fragment.lines_of_not_mem h, Fragment.lines_of_not_mem (Fragment.not_mem_indentLine level h)]
  cases hlines : lines text with
  | nil => exact absurd hlines (Text.lines_ne_nil text)
  | cons first others => rw [padLines_append, List.map_singleton]

/-- A text that ends in something else than a blank is only left alone if it stands on one line. -/
theorem padded_eq_self_iff (hlevel : 0 < level) {text : List Char} {c : Char}
    (hlast : text.getLast? = some c) (hsolid : Text.isBlank c = false) :
    padded level text = text ↔ '\n' ∉ text := by
  refine ⟨fun h hmem => ?_, padded_of_not_mem⟩
  obtain ⟨front, last, rfl, hbreak⟩ := Text.exists_last_line hmem
  have hline : indentLine level last = last := by
    rw [padded_append_break front hbreak] at h
    have hlines := congrArg lines h
    rw [Text.lines_append_break, Text.lines_append_break, Fragment.lines_of_not_mem hbreak,
      Fragment.lines_of_not_mem (Fragment.not_mem_indentLine level hbreak)] at hlines
    exact (List.cons.inj (List.append_inj' hlines rfl).2).1
  have hc : c ∈ last := by
    cases last with
    | nil =>
      rw [List.getLast?_concat] at hlast
      rw [← Option.some.inj hlast] at hsolid
      exact absurd hsolid (by decide)
    | cons d ds =>
      rw [List.getLast?_append, List.getLast?_cons_cons] at hlast
      exact List.mem_of_getLast? (by simpa [List.getLast?_cons] using hlast)
  have hblank : isBlankText last = false := by
    rw [← Bool.not_eq_true]
    intro hblank
    rw [List.all_eq_true.1 hblank c hc] at hsolid
    exact absurd hsolid nofun
  rw [Fragment.indentLine_of_solid level hblank] at hline
  have hlength := congrArg List.length hline
  have hpos : 0 < indentWidth * level := Nat.mul_pos (by decide) hlevel
  rw [List.length_append, List.length_replicate] at hlength
  omega

end padding

/-! ### Spaces in strings -/

section spaces
variable {quote : Char} {triple : Bool}

/-- Spaces neither close a string nor escape anything. -/
theorem closeLength_spaces (hquote : quote ≠ ' ') (k : Nat) (cs : List Char) :
    closeLength quote triple (List.replicate k ' ' ++ cs) =
      (closeLength quote triple cs).map (· + k) := by
  induction k with
  | zero => simp
  | succ k ih =>
    rw [List.replicate_succ, List.cons_append, closeLength_of_ne (by decide), if_neg hquote.symm,
      ih, Option.map_map]
    rfl

end spaces

theorem endsJoined_spaces (k : Nat) (cs : List Char) :
    endsJoined (List.replicate k ' ' ++ cs) = endsJoined cs := by
  induction k with
  | zero => rfl
  | succ k ih =>
    rw [← ih, List.replicate_succ, List.cons_append, endsJoined, endsJoined, List.reverse_cons]
    -- a space behind the end of the reversed text completes neither of the two endings
    rcases (List.replicate k ' ' ++ cs).reverse with _ | ⟨c, _ | ⟨d, _ | ⟨e, rest⟩⟩⟩ <;> grind

/-! ### Rests of lines -/

/-- The rest of a line, which ends with the only line break in it. -/
def IsLineRest (cs : List Char) : Prop := ∃ text, cs = text ++ ['\n'] ∧ '\n' ∉ text

namespace IsLineRest
variable {cs : List Char}

theorem of_suffix (h : IsLineRest cs) {rest : List Char} (hsuffix : rest <:+ cs) :
    rest = [] ∨ IsLineRest rest := by
  obtain ⟨text, rfl, hbreak⟩ := h
  obtain ⟨front, hfront⟩ := hsuffix
  rcases List.eq_nil_or_concat rest with rfl | ⟨inner, last, rfl⟩
  · exact Or.inl rfl
  · rw [List.concat_eq_append, ← List.append_assoc] at hfront
    obtain ⟨rfl, hlast⟩ := List.append_inj' hfront rfl
    exact Or.inr ⟨inner, by rw [List.concat_eq_append, hlast],
      fun hmem => hbreak (List.mem_append_right _ hmem)⟩

/-- A part that does not end with the line break does not hold it. -/
theorem not_mem_of_part (h : IsLineRest cs) {front : List Char} (hpart : front <+: cs)
    {last : Char} (hlast : front.getLast? = some last) (hne : last ≠ '\n') : '\n' ∉ front := by
  obtain ⟨text, rfl, hbreak⟩ := h
  obtain ⟨behind, hbehind⟩ := hpart
  rcases List.eq_nil_or_concat behind with rfl | ⟨inner, c, rfl⟩
  · -- the part is the whole line, and so ends with the line break
    rw [List.append_nil] at hbehind
    rw [hbehind, List.getLast?_concat] at hlast
    exact absurd (Option.some.inj hlast).symm hne
  · rw [List.concat_eq_append, ← List.append_assoc] at hbehind
    obtain ⟨rfl, -⟩ := List.append_inj' hbehind rfl
    exact fun hmem => hbreak (List.mem_append_left _ hmem)

end IsLineRest

/-! ### States -/

/-- Two open strings with the same quotes, where the lines of the second are padded. They go up to
    the end of a line. -/
structure OpenString.IsPadded (level : Nat) (o o' : OpenString) : Prop where
  quote : o'.quote = o.quote
  triple : o'.triple = o.triple
  isQuote : isQuote o.quote = true
  text : ∃ front, o.text = front ++ ['\n'] ∧ o'.text = padded level front ++ ['\n']

/-- Two states between which only indentations and places are different, and the text of an open
    string, which is padded. -/
structure LexState.IsPadded (level : Nat) (st st' : LexState) : Prop where
  brackets : st'.brackets = st.brackets
  joined : st'.joined = st.joined
  strict : st'.strict = st.strict
  open? : (st.open? = none ∧ st'.open? = none) ∨
    ∃ o o', st.open? = some o ∧ st'.open? = some o' ∧ o.IsPadded level o'

namespace LexState.IsPadded
variable {level : Nat} {st st' : LexState} (h : st.IsPadded level st')
include h

theorem open?_eq_none (hopen : st.open? = none) : st'.open? = none := by
  rcases h.open? with ⟨_, hnone⟩ | ⟨o, _, hsome, _⟩
  · exact hnone
  · exact absurd (hopen.symm.trans hsome) nofun

theorem afterOperator (hopen : st.open? = none) (op : String) :
    (st.afterOperator op).IsPadded level (st'.afterOperator op) ∧
      (st.afterOperator op).open? = none := by
  have hopen' := h.open?_eq_none hopen
  unfold LexState.afterOperator
  split
  · exact ⟨⟨congrArg (· + 1) h.brackets, h.joined, h.strict, Or.inl ⟨hopen, hopen'⟩⟩, hopen⟩
  · split
    · exact ⟨⟨congrArg (· - 1) h.brackets, h.joined, h.strict, Or.inl ⟨hopen, hopen'⟩⟩, hopen⟩
    · exact ⟨h, hopen⟩

/-- Indentations do not matter. -/
theorem indentStep {line line' : Nat} {blanks blanks' : List Char} {layout layout' : List Token}
    {inner inner' : LexState} (hindent : Flow.indentStep st line blanks = .ok (layout, inner))
    (hindent' : Flow.indentStep st' line' blanks' = .ok (layout', inner')) :
    inner.IsPadded level inner' := by
  obtain ⟨indents, rfl⟩ := exists_of_indentStep hindent
  obtain ⟨indents', rfl⟩ := exists_of_indentStep hindent'
  exact ⟨h.brackets, h.joined, h.strict, h.open?⟩

end LexState.IsPadded

/-! ### Inside a line -/

section line
variable {level : Nat}

/-- A string token on one line is not padded. -/
theorem strings_singleton {t t' : Token} (hkind : t'.kind = t.kind) (htext : t'.text = t.text)
    (hbreak : t.kind = .string → '\n' ∉ t.text) :
    strings [t'] = (strings [t]).map (padded level) := by
  by_cases hstring : t.kind = .string
  · simp [strings, hkind, hstring, htext, padded_of_not_mem (hbreak hstring)]
  · simp [strings, hkind, hstring]

/-- A lexeme does the same in a state with other indentations. -/
theorem lexemeStep_padded {st st' next : LexState} (h : st.IsPadded level st')
    (hopen : st.open? = none) {lexeme : Lexeme} {n line column : Nat} {cs behind : List Char}
    {token? : Option Token} (hcs : IsLineRest cs) (hnext : Lexeme.next? cs = some (lexeme, n))
    (hstep : lexemeStep st line column lexeme (cs.take n) (cs.drop n) = (token?, next, behind))
    (line' column' : Nat) :
    ∃ token?' next', lexemeStep st' line' column' lexeme (cs.take n) (cs.drop n) =
        (token?', next', behind) ∧ next.IsPadded level next' ∧
      (next.open? = none ∨ behind = []) ∧
        strings token?'.toList = (strings token?.toList).map (padded level) := by
  have hquote := Lexeme.hasQuote_of_next? _ hnext
  have hopen' := h.open?_eq_none hopen
  have hall : cs.take n ++ cs.drop n = cs := List.take_append_drop n cs
  -- a string that goes on holds the rest of its line
  have hrest : ∃ front, cs.take n ++ cs.drop n = front ++ ['\n'] ∧
      cs.take n ++ cs.drop n = padded level front ++ ['\n'] := by
    obtain ⟨text, htext, hbreak⟩ := hcs
    exact ⟨text, hall.trans htext, by rw [padded_of_not_mem hbreak, hall, htext]⟩
  cases lexeme with
  | continuation =>
    cases hstep
    exact ⟨_, _, rfl, ⟨h.brackets, rfl, h.strict, Or.inl ⟨hopen, hopen'⟩⟩, Or.inl hopen, rfl⟩
  | comment | number =>
    cases hstep
    exact ⟨_, _, rfl, h, Or.inl hopen, strings_singleton rfl rfl nofun⟩
  | word =>
    cases hstep
    refine ⟨_, _, rfl, h, Or.inl hopen, strings_singleton rfl rfl fun hkind => ?_⟩
    exact absurd hkind (wordKind_ne_string _)
  | lineEnd =>
    cases hstep
    refine ⟨_, _, rfl, h, Or.inl hopen, strings_singleton ?_ rfl ?_⟩
    · rw [h.brackets]
    · dsimp only
      split <;> exact nofun
  | operator =>
    cases hstep
    obtain ⟨hnext, hnone⟩ := h.afterOperator hopen (String.ofList (cs.take n))
    exact ⟨_, _, rfl, hnext, Or.inl hnone, strings_singleton rfl rfl nofun⟩
  | string =>
    cases hstep
    obtain ⟨quote, hquote, hlast⟩ := hquote
    refine ⟨_, _, rfl, h, Or.inl hopen, strings_singleton rfl rfl fun _ => ?_⟩
    exact hcs.not_mem_of_part (List.take_prefix n cs) hlast (ne_of_isQuote hquote (by decide))
  | openString quote =>
    cases hstep
    exact ⟨_, _, rfl, ⟨h.brackets, h.joined, rfl,
      Or.inr ⟨_, _, rfl, rfl, ⟨rfl, rfl, hquote.1, hrest⟩⟩⟩, Or.inr rfl, rfl⟩
  | tripleQuote quote =>
    dsimp only [lexemeStep] at hstep ⊢
    cases hclose : closeLength quote true (cs.drop n) with
    | some m =>
      rw [hclose] at hstep
      cases hstep
      refine ⟨_, _, rfl, h, Or.inl hopen, strings_singleton rfl rfl fun _ => ?_⟩
      have hlast : (cs.take n ++ (cs.drop n).take m).getLast? = some quote := by
        rw [List.getLast?_append, getLast?_of_closeLength hclose]
        rfl
      have hpart : cs.take n ++ (cs.drop n).take m <+: cs := by
        rw [← List.take_add]
        exact List.take_prefix _ _
      exact hcs.not_mem_of_part hpart hlast (ne_of_isQuote hquote.1 (by decide))
    | none =>
      rw [hclose] at hstep
      cases hstep
      exact ⟨_, _, rfl, ⟨h.brackets, h.joined, h.strict,
        Or.inr ⟨_, _, rfl, rfl, ⟨rfl, rfl, hquote.1, hrest⟩⟩⟩, Or.inr rfl, rfl⟩

/-- Behind more blanks, a stray character comes later, and so do the tokens behind it. -/
theorem Scanned.stray_behind {st final : LexState} {line : Nat} {c d : Char}
    {cs blanks ds : List Char} (hblanks : ∀ b ∈ blanks, isGap b = true) (hd : isGap d = false)
    (hsplit : c :: cs = blanks ++ d :: ds) (hnext : Lexeme.next? (d :: ds) = none)
    {pads : List Char} (hpads : ∀ b ∈ pads, isGap b = true) {column : Nat} {tokens : List Token}
    (h : Scanned line st (column + pads.length) (c :: cs) tokens final) :
    ∃ tokens', Scanned line st column (pads ++ c :: cs) tokens' final ∧
      strings tokens' = strings tokens := by
  induction pads generalizing column with
  | nil => exact ⟨tokens, h, rfl⟩
  | cons b pads ih =>
    obtain ⟨hb, hpads⟩ := List.forall_mem_cons.1 hpads
    rw [List.length_cons, Nat.add_comm pads.length 1, ← Nat.add_assoc] at h
    obtain ⟨tokens', htokens, hstrings⟩ := ih hpads h
    have hall : ∀ e ∈ b :: pads ++ blanks, isGap e = true :=
      List.forall_mem_append.2 ⟨List.forall_mem_cons.2 ⟨hb, hpads⟩, hblanks⟩
    refine ⟨_, .stray hall hd ?_ hnext htokens, hstrings⟩
    rw [hsplit, List.append_assoc]
    rfl

theorem Scanned.of_nil {st final : LexState} {line column : Nat} {tokens : List Token}
    (h : Scanned line st column [] tokens final) : tokens = [] ∧ final = st := by
  have hscan := h.scan_eq (Nat.le_refl 0)
  obtain ⟨htokens, hfinal⟩ := Prod.mk.inj hscan
  exact ⟨htokens.symm, hfinal.symm⟩

/-- Behind more blanks and in a state with other indentations, a line has the same strings. -/
theorem Scanned.padded {st final : LexState} {line column : Nat} {cs : List Char}
    {tokens : List Token} (hscan : Scanned line st column cs tokens final) :
    ∀ {st' : LexState}, st.IsPadded level st' → st.open? = none → (cs = [] ∨ IsLineRest cs) →
      ∀ pads : List Char, (∀ b ∈ pads, isGap b = true) → ∀ line' column' : Nat,
        ∃ tokens' final', Scanned line' st' column' (pads ++ cs) tokens' final' ∧
          final.IsPadded level final' ∧
            strings tokens' = (strings tokens).map (Flow.padded level) := by
  -- the blanks in front are free in the induction, though the rest of the line has none
  induction hscan with
  | @blank st column blanks hblanks =>
    intro st' h _ _ pads hpads line' column'
    exact ⟨[], st', .blank (List.forall_mem_append.2 ⟨hpads, hblanks⟩), h, rfl⟩
  | @stray st final column c d cs blanks ds tokens hblanks hd hsplit hnext rest ih =>
    intro st' h hopen hcs pads hpads line' column'
    have hbehind := (hcs.resolve_left (by simp)).of_suffix (List.suffix_cons c cs)
    obtain ⟨tokens', final', htokens, hfinal, hstrings⟩ :=
      ih h hopen hbehind [] (List.forall_mem_nil _) line' (column' + pads.length + 1)
    obtain ⟨all, hall, hsame⟩ := Scanned.stray_behind hblanks hd hsplit hnext hpads
      (Scanned.stray hblanks hd hsplit hnext htokens)
    exact ⟨all, final', hall, hfinal, hsame.trans hstrings⟩
  | @lexeme st next final column length c cs blanks behind lexeme token? tokens hblanks hc hnext
      hstep rest ih =>
    intro st' h hopen hcs pads hpads line' column'
    have hline : IsLineRest (c :: cs) :=
      ((hcs.resolve_left (by simp)).of_suffix (List.suffix_append _ _)).resolve_left (by simp)
    obtain ⟨token?', next', hstep', hnext', hends, hstring⟩ := lexemeStep_padded h hopen hline
      hnext hstep line' (column' + (pads ++ blanks).length)
    have hall : ∀ b ∈ pads ++ blanks, isGap b = true := List.forall_mem_append.2 ⟨hpads, hblanks⟩
    have hform : pads ++ (blanks ++ c :: cs) = (pads ++ blanks) ++ c :: cs :=
      (List.append_assoc _ _ _).symm
    have hbehind := hline.of_suffix (suffix_of_lexemeStep hstep)
    rw [hform]
    rcases hends with hnone | rfl
    · obtain ⟨tokens', final', htokens, hfinal, hstrings⟩ :=
        ih hnext' hnone hbehind [] (List.forall_mem_nil _) line' _
      refine ⟨_, final', .lexeme hall hc hnext hstep' htokens, hfinal, ?_⟩
      rw [strings_append, strings_append, List.map_append, hstring, hstrings]
    · -- nothing is left, so the scan ends in front of an open string
      obtain ⟨rfl, rfl⟩ := rest.of_nil
      refine ⟨_, next', .lexeme hall hc hnext hstep' (.blank (List.forall_mem_nil _)), hnext', ?_⟩
      rw [List.append_nil, List.append_nil, hstring]

/-- The scanner finds the same strings behind more blanks. -/
theorem scan_padded {st st' : LexState} (h : st.IsPadded level st') (hopen : st.open? = none)
    {cs : List Char} (hcs : cs = [] ∨ IsLineRest cs) (pads : List Char)
    (hpads : ∀ b ∈ pads, isGap b = true) {fuel fuel' : Nat} (hfuel : cs.length ≤ fuel)
    (hfuel' : (pads ++ cs).length ≤ fuel') (line line' column column' : Nat) :
    (scan fuel st line column cs).2.IsPadded level
        (scan fuel' st' line' column' (pads ++ cs)).2 ∧
      strings (scan fuel' st' line' column' (pads ++ cs)).1 =
        (strings (scan fuel st line column cs).1).map (padded level) := by
  have hscan : Scanned line st column cs _ _ := LineReading.scan_rest st column cs hfuel
  obtain ⟨tokens', final', htokens, hfinal, hstrings⟩ :=
    hscan.padded h hopen hcs pads hpads line' column'
  rw [htokens.scan_eq hfuel']
  exact ⟨hfinal, hstrings⟩

/-! ### Lines -/

theorem isGap_of_mem_replicate {k : Nat} : ∀ b ∈ List.replicate k ' ', isGap b = true := by
  intro b hb
  rw [List.eq_of_mem_replicate hb]
  decide

theorem isBlankText_eq_false {quote : Char} (hquote : isQuote quote = true) {text : List Char}
    (hmem : quote ∈ text) : isBlankText text = false := by
  have hsolid : Text.isBlank quote = false := by
    rw [isQuote, Bool.or_eq_true, beq_iff_eq, beq_iff_eq] at hquote
    rcases hquote with rfl | rfl <;> decide
  rw [← Bool.not_eq_true]
  intro hblank
  rw [List.all_eq_true.1 hblank quote hmem] at hsolid
  cases hsolid

/-- A line that closes a string holds the quote, so it is not blank, and nor is what closes it. -/
theorem solid_of_closeLength {quote : Char} (hquote : isQuote quote = true) {triple : Bool}
    {text : List Char} (htext : '\n' ∉ text) {n : Nat}
    (h : closeLength quote triple (text ++ ['\n']) = some n) :
    isBlankText text = false ∧ '\n' ∉ (text ++ ['\n']).take n ∧
      isBlankText ((text ++ ['\n']).take n) = false := by
  have hlast := getLast?_of_closeLength h
  have hmem : quote ∈ (text ++ ['\n']).take n := List.mem_of_getLast? hlast
  have hne : quote ≠ '\n' := ne_of_isQuote hquote (by decide)
  have hline : quote ∈ text :=
    (List.mem_append.1 (List.mem_of_mem_take hmem)).resolve_right (by simpa using hne)
  exact ⟨isBlankText_eq_false hquote hline,
    IsLineRest.not_mem_of_part ⟨text, rfl, htext⟩ (List.take_prefix _ _) hlast hne,
    isBlankText_eq_false hquote hmem⟩

/-! A line inside an open string is padded with it. -/

section inside
variable {st st' : LexState} (h : st.IsPadded level st') {o o' : OpenString}
  (ho : o.IsPadded level o') {text : List Char} (htext : '\n' ∉ text) (line line' : Nat)
include ho

/-- Spaces in front of a line put off the end of the string. -/
theorem OpenString.IsPadded.closeLength_indentLine {k : Nat}
    (hform : indentLine level text = List.replicate k ' ' ++ text) :
    closeLength o'.quote o'.triple (indentLine level text ++ ['\n']) =
      (closeLength o.quote o.triple (text ++ ['\n'])).map (· + k) := by
  rw [ho.quote, ho.triple, hform, List.append_assoc,
    closeLength_spaces (ne_of_isQuote ho.isQuote (by decide))]

include h htext

/-- A line that closes the string: what closes it is padded as the line is, since both hold the
    quote. -/
theorem continueString_padded_of_some {n : Nat}
    (hclose : closeLength o.quote o.triple (text ++ ['\n']) = some n) :
    (continueString st o line (text ++ ['\n'])).2.IsPadded level
        (continueString st' o' line' (indentLine level text ++ ['\n'])).2 ∧
      strings (continueString st' o' line' (indentLine level text ++ ['\n'])).1 =
        (strings (continueString st o line (text ++ ['\n'])).1).map (padded level) := by
  obtain ⟨front, hfront, hfront'⟩ := ho.text
  obtain ⟨hsolid, hbreak, hpiece⟩ := solid_of_closeLength ho.isQuote htext hclose
  have hform := Fragment.indentLine_of_solid level hsolid
  have hclose' := (ho.closeLength_indentLine hform).trans
    (congrArg (Option.map (· + indentWidth * level)) hclose)
  have hdrop : (indentLine level text ++ ['\n']).drop (n + indentWidth * level) =
      (text ++ ['\n']).drop n := by
    rw [hform, List.append_assoc, Nat.add_comm, ← List.drop_drop,
      List.drop_left' List.length_replicate]
  have htake : (indentLine level text ++ ['\n']).take (n + indentWidth * level) =
      List.replicate (indentWidth * level) ' ' ++ (text ++ ['\n']).take n := by
    rw [hform, List.append_assoc, Nat.add_comm, List.take_add,
      List.take_left' List.length_replicate, List.drop_left' List.length_replicate]
  have hstring : o'.text ++ (indentLine level text ++ ['\n']).take (n + indentWidth * level) =
      padded level (o.text ++ (text ++ ['\n']).take n) := by
    rw [htake, hfront, hfront', List.append_assoc, List.singleton_append, List.append_assoc,
      List.singleton_append, padded_append_break front hbreak,
      Fragment.indentLine_of_solid level hpiece]
  -- behind the string, both lines go on with the same text
  have hrest := IsLineRest.of_suffix ⟨text, rfl, htext⟩ (List.drop_suffix n (text ++ ['\n']))
  have hstate : ({ st with open? := none, strict := false } : LexState).IsPadded level
      { st' with open? := none, strict := false } :=
    ⟨h.brackets, h.joined, rfl, Or.inl ⟨rfl, rfl⟩⟩
  have hfuel : ((text ++ ['\n']).drop n).length ≤ (text ++ ['\n']).length :=
    (List.drop_suffix _ _).length_le
  have hfuel' : ((text ++ ['\n']).drop n).length ≤ (indentLine level text ++ ['\n']).length :=
    hdrop ▸ (List.drop_suffix _ _).length_le
  obtain ⟨hfinal, hstrings⟩ := scan_padded hstate rfl hrest [] (List.forall_mem_nil _)
    hfuel hfuel' line line' n (n + indentWidth * level)
  rw [List.nil_append] at hfinal hstrings
  rw [continueString_of_some st line hclose, continueString_of_some st' line' hclose', hdrop,
    hstring]
  refine ⟨hfinal, ?_⟩
  rw [strings_cons, hstrings, strings_cons _ (scan _ _ _ _ _).1, List.map_append]
  rfl

/-- A line that does not close the string becomes one more line of it. -/
theorem continueString_padded_of_none
    (hclose : closeLength o.quote o.triple (text ++ ['\n']) = none) :
    (continueString st o line (text ++ ['\n'])).2.IsPadded level
        (continueString st' o' line' (indentLine level text ++ ['\n'])).2 ∧
      strings (continueString st' o' line' (indentLine level text ++ ['\n'])).1 =
        (strings (continueString st o line (text ++ ['\n'])).1).map (padded level) := by
  obtain ⟨front, hfront, hfront'⟩ := ho.text
  obtain ⟨k, hk⟩ := Fragment.exists_indentLine_eq level text
  have hclose' := (ho.closeLength_indentLine hk).trans (congrArg (Option.map (· + k)) hclose)
  have hjoined : endsJoined (indentLine level text ++ ['\n']) = endsJoined (text ++ ['\n']) := by
    rw [hk, List.append_assoc, endsJoined_spaces]
  rw [continueString_of_none st line hclose, continueString_of_none st' line' hclose', h.strict,
    hjoined]
  split
  · exact ⟨⟨h.brackets, h.joined, rfl, Or.inl ⟨rfl, rfl⟩⟩, rfl⟩
  · refine ⟨⟨h.brackets, h.joined, rfl, Or.inr ⟨_, _, rfl, rfl, ?_⟩⟩, rfl⟩
    refine ⟨ho.quote, ho.triple, ho.isQuote, front ++ '\n' :: text, ?_, ?_⟩
    · simp [hfront]
    · simp [hfront', padded_append_break front htext]

/-- A line inside an open string is padded, and closes the string if it did before. -/
theorem continueString_padded :
    (continueString st o line (text ++ ['\n'])).2.IsPadded level
        (continueString st' o' line' (indentLine level text ++ ['\n'])).2 ∧
      strings (continueString st' o' line' (indentLine level text ++ ['\n'])).1 =
        (strings (continueString st o line (text ++ ['\n'])).1).map (padded level) := by
  cases hclose : closeLength o.quote o.triple (text ++ ['\n']) with
  | some n => exact continueString_padded_of_some h ho htext line line' hclose
  | none => exact continueString_padded_of_none h ho htext line line' hclose

end inside

/-- The indentation of a statement does not matter for its strings. -/
theorem statementLine_padded {st st' next next' : LexState} (h : st.IsPadded level st')
    (hopen : st.open? = none) {text : List Char} (htext : IsLineRest text) {pads : List Char}
    (hpads : ∀ b ∈ pads, isGap b = true) {line line' : Nat} {tokens tokens' : List Token}
    (hline : statementLine st line text = .ok (tokens, next))
    (hline' : statementLine st' line' (pads ++ text) = .ok (tokens', next')) :
    next.IsPadded level next' ∧ strings tokens' = (strings tokens).map (padded level) := by
  have hlayout {ts : List Token} (h : ∀ t ∈ ts, t.kind ≠ .name ∧ t.kind ≠ .string) :
      strings ts = [] := strings_eq_nil fun t ht => (h t ht).2
  have hdrop : (pads ++ text).dropWhile isGap = text.dropWhile isGap :=
    List.dropWhile_append_of_pos hpads
  rcases statementLine_cases hline with
    ⟨hempty, rfl, rfl⟩ | ⟨hstatement, layout, inner, hindent, rfl, rfl⟩
  · rw [statementLine_of_isEmptyLine (hdrop ▸ hempty)] at hline'
    obtain ⟨rfl, rfl⟩ := Prod.mk.inj (Except.ok.inj hline')
    rw [hlayout fun t ht => kind_of_mem_emptyLine ht, hlayout fun t ht => kind_of_mem_emptyLine ht]
    exact ⟨h, rfl⟩
  · rcases statementLine_cases hline' with
      ⟨hempty, -⟩ | ⟨-, layout', inner', hindent', rfl, rfl⟩
    · rw [hdrop, hstatement] at hempty
      cases hempty
    rw [hdrop]
    obtain ⟨hfinal, hstrings⟩ := scan_padded (h.indentStep hindent hindent')
      ((open?_of_indentStep hindent).trans hopen) (htext.of_suffix (List.dropWhile_suffix _))
      [] (List.forall_mem_nil _) (Nat.le_refl _) (Nat.le_refl _) line line'
      (text.takeWhile isGap).length ((pads ++ text).takeWhile isGap).length
    rw [strings_append, strings_append, hlayout fun t ht => kind_of_mem_indentStep hindent ht,
      hlayout fun t ht => kind_of_mem_indentStep hindent' ht]
    exact ⟨hfinal, hstrings⟩

/-- An indented line has the strings of the line, padded. -/
theorem lexLine_padded {st st' next next' : LexState} (h : st.IsPadded level st')
    {text : List Char} (htext : '\n' ∉ text) {line line' : Nat} {tokens tokens' : List Token}
    (hline : lexLine st line (text ++ ['\n']) = .ok (tokens, next))
    (hline' : lexLine st' line' (indentLine level text ++ ['\n']) = .ok (tokens', next')) :
    next.IsPadded level next' ∧ strings tokens' = (strings tokens).map (padded level) := by
  rcases h.open? with ⟨hopen, hopen'⟩ | ⟨o, o', hopen, hopen', ho⟩
  · -- no string is open, so the spaces are blanks in front of the first lexeme
    obtain ⟨k, hk⟩ := Fragment.exists_indentLine_eq level text
    have hrest : IsLineRest (text ++ ['\n']) := ⟨text, rfl, htext⟩
    rw [lexLine_of_none hopen] at hline
    rw [lexLine_of_none hopen', hk, List.append_assoc] at hline'
    have hsame : (st'.brackets = 0 ∧ !st'.joined) ↔ (st.brackets = 0 ∧ !st.joined) := by
      rw [h.brackets, h.joined]
    split at hline
    · next hstart =>
      rw [if_pos (hsame.2 hstart)] at hline'
      exact statementLine_padded h hopen hrest isGap_of_mem_replicate hline hline'
    · next hstart =>
      rw [if_neg (mt hsame.1 hstart)] at hline'
      have hstate : ({ st with joined := false } : LexState).IsPadded level
          { st' with joined := false } := ⟨h.brackets, rfl, h.strict, Or.inl ⟨hopen, hopen'⟩⟩
      obtain ⟨hfinal, hstrings⟩ := scan_padded hstate hopen (Or.inr hrest)
        (List.replicate k ' ') isGap_of_mem_replicate (Nat.le_refl _) (Nat.le_refl _) line line' 0 0
      rw [Except.ok.inj hline, Except.ok.inj hline'] at hfinal hstrings
      exact ⟨hfinal, hstrings⟩
  · rw [lexLine_of_some hopen] at hline
    rw [lexLine_of_some hopen'] at hline'
    have hall := continueString_padded h ho htext line line'
    rw [Except.ok.inj hline, Except.ok.inj hline'] at hall
    exact hall

end line

/-! ### Texts -/

section texts
variable {level : Nat}

/-- If lines and the indented lines can be read, the second have the strings of the first, padded.
    Behind the first there may be lines without quotes. -/
theorem lexLines_padded {ls extra : List (List Char)} (hls : ∀ text ∈ ls, '\n' ∉ text)
    (hextra : ∀ text ∈ extra, ∀ c ∈ text, isQuote c = false) {st st' : LexState}
    (h : st.IsPadded level st') {line line' : Nat} {ts us : List Token}
    (hts : lexLines st line (ls ++ extra) = .ok ts)
    (hus : lexLines st' line' (ls.map (indentLine level)) = .ok us) :
    strings us = (strings ts).map (padded level) := by
  induction ls generalizing st st' line line' ts us with
  | nil =>
    -- the indented lines end here, so no string is open
    have hopen : st.open? = none := by
      rcases h.open? with ⟨hnone, _⟩ | ⟨_, o', _, hsome, _⟩
      · exact hnone
      · rw [List.map_nil, lexLines, finish, hsome] at hus
        cases hus
    rw [strings_of_quoteless hextra hopen hts,
      strings_eq_nil fun t ht => (kind_of_mem_finish hus ht).2]
    rfl
  | cons text rest ih =>
    obtain ⟨htext, hrest⟩ := List.forall_mem_cons.1 hls
    obtain ⟨first, next, others, hfirst, hothers, rfl⟩ := exists_of_lexLines hts
    obtain ⟨first', next', others', hfirst', hothers', rfl⟩ := exists_of_lexLines hus
    obtain ⟨hnext, hstrings⟩ := lexLine_padded h htext hfirst hfirst'
    rw [strings_append, strings_append, List.map_append, hstrings, ih hrest hnext hothers hothers']

/-- Empty lines in front of a text have a token each, and the text is read as it was. -/
theorem lexLines_replicate_append {n line : Nat} {ls : List (List Char)} {ts : List Token}
    (h : lexLines .start line (List.replicate n [] ++ ls) = .ok ts) :
    ∃ breaks us, ts = breaks ++ us ∧ (∀ t ∈ breaks, t.kind = .lineBreak) ∧
      lexLines .start (line + n) ls = .ok us := by
  induction n generalizing line ts with
  | zero => exact ⟨[], ts, rfl, nofun, h⟩
  | succ n ih =>
    obtain ⟨first, next, others, hfirst, hothers, rfl⟩ := exists_of_lexLines h
    have hempty : lexLine .start line ([] ++ ['\n']) =
        .ok ([⟨.lineBreak, ['\n'], line, 0⟩], .start) := rfl
    obtain ⟨rfl, rfl⟩ := Prod.mk.inj (Except.ok.inj (hempty.symm.trans hfirst))
    obtain ⟨breaks, us, rfl, hbreaks, hus⟩ := ih hothers
    refine ⟨_ :: breaks, us, rfl, List.forall_mem_cons.2 ⟨rfl, hbreaks⟩, ?_⟩
    rwa [Nat.add_assoc, Nat.add_comm 1 n] at hus

theorem isPadded_start (level : Nat) : LexState.start.IsPadded level .start :=
  ⟨rfl, rfl, rfl, Or.inl ⟨rfl, rfl⟩⟩

/-- A text has the strings of its lines that are not at its ends and empty, with these lines
    indented or not. -/
theorem tokens_padded {before after : Nat} {ls : List (List Char)} (hls : ∀ text ∈ ls, '\n' ∉ text)
    {ts us : List Token}
    (hts : tokens (List.replicate before [] ++ ls ++ List.replicate after []) = .ok ts)
    (hus : tokens (ls.map (indentLine level)) = .ok us) :
    strings us = (strings ts).map (padded level) := by
  rw [tokens, List.append_assoc] at hts
  obtain ⟨breaks, inner, rfl, hbreaks, hinner⟩ := lexLines_replicate_append hts
  have hnone : strings breaks = [] := strings_eq_nil fun t ht => by simp [hbreaks t ht]
  rw [strings_append, hnone, List.nil_append]
  refine lexLines_padded hls (fun text htext => ?_) (isPadded_start level) hinner hus
  rw [List.eq_of_mem_replicate htext]
  exact List.forall_mem_nil _

theorem isQuote_of_isBlank {c : Char} (h : Text.isBlank c = true) : isQuote c = false := by
  rw [isQuote, Bool.or_eq_false_iff]
  constructor <;> refine beq_false_of_ne ?_ <;> rintro rfl <;> exact absurd h (by decide)

/-- Code without quotes has no strings as the body of a block. -/
theorem strings_of_quoteless_body {code : String} (hcode : ∀ c ∈ code.toList, isQuote c = false)
    {us : List Token} (hus : tokens (lines (Fragment.body code level).toList) = .ok us) :
    strings us = [] := by
  have hindent {line : List Char} (h : ∀ c ∈ line, isQuote c = false) :
      ∀ c ∈ indentLine level line, isQuote c = false := by
    obtain ⟨k, hk⟩ := Fragment.exists_indentLine_eq level line
    rw [hk]
    refine List.forall_mem_append.2 ⟨fun c hc => ?_, h⟩
    rw [List.eq_of_mem_replicate hc]
    decide
  rw [Fragment.lines_body] at hus
  refine strings_of_quoteless (fun text htext => ?_) rfl hus
  split at htext
  · have hpass : "pass".toList.all (!isQuote ·) = true := by decide
    rw [List.mem_singleton.1 htext]
    exact hindent fun c hc => by simpa using List.all_eq_true.1 hpass c hc
  · obtain ⟨line, hline, rfl⟩ := List.mem_map.1 htext
    have hmem := Fragment.mem_lines_of_mem_lines_trimBreaks hline
    exact hindent fun c hc => hcode c (Text.mem_of_mem_lines hmem hc)

/-- Code that is the body of a block has the strings that it had, padded. -/
theorem strings_of_body {code : String} {ts us : List Token}
    (hts : tokens (lines code.toList) = .ok ts)
    (hus : tokens (lines (Fragment.body code level).toList) = .ok us) :
    strings us = (strings ts).map (padded level) := by
  by_cases hblank : Fragment.isBlank code = true
  · -- the statement that does nothing stands for code without quotes
    have hcode : ∀ c ∈ code.toList, isQuote c = false := fun c hc =>
      isQuote_of_isBlank (List.all_eq_true.1 hblank c hc)
    rw [strings_of_quoteless_body hcode hus,
      strings_of_quoteless (fun _ hline c hc => hcode c (Text.mem_of_mem_lines hline hc)) rfl hts]
    rfl
  · rw [Fragment.lines_body, if_neg hblank] at hus
    obtain ⟨before, after, hlines⟩ := Text.lines_eq_around_trimBreaks code.toList
    rw [hlines] at hts
    exact tokens_padded (fun text => Text.not_mem_of_mem_lines) hts hus

/-! ### Without indentation -/

theorem indentLine_zero (line : List Char) : indentLine (0 : Nat) line = line := by
  obtain hblank | hsolid := Bool.eq_false_or_eq_true (isBlankText line)
  · exact Fragment.indentLine_of_blank 0 hblank
  · exact Fragment.indentLine_of_solid 0 hsolid

theorem padded_zero (text : List Char) : padded 0 text = text := by
  apply eq_of_lines
  rw [lines_padded]
  cases lines text with
  | nil => rfl
  | cons first others =>
    rw [padLines, List.map_congr_left fun line _ => indentLine_zero line, List.map_id']

/-- Line breaks at the ends of a text hold no strings. -/
theorem strings_trimBreaks {code : List Char} {ts us : List Token}
    (hts : tokens (lines code) = .ok ts) (hus : tokens (lines (Text.trimBreaks code)) = .ok us) :
    strings us = strings ts := by
  obtain ⟨before, after, hlines⟩ := Text.lines_eq_around_trimBreaks code
  rw [hlines] at hts
  have hall : tokens ((lines (Text.trimBreaks code)).map (indentLine (0 : Nat))) = .ok us := by
    rwa [List.map_congr_left fun line _ => indentLine_zero line, List.map_id']
  have hstrings := tokens_padded (fun text => Text.not_mem_of_mem_lines) hts hall
  rwa [List.map_congr_left fun text _ => padded_zero text, List.map_id'] at hstrings

end texts

end LayerGraph.Flow
