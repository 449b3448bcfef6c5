import LayerGraph.Proofs.Json.Reads
import LayerGraph.Text.Lines

/-! # The same document in another place

    A document may stand in another one, with a comma and more behind it, and its line ends may be
    written in another way. Neither changes what is read. *Inserted* relates a text to the same text
    in such a place: whatever a step of the reader looks for in the one is found in the other, up to
    what stands behind. Hence a document is read in its new place as it was (`exists_reads_insert`).
-/

namespace LayerGraph.Json

open Number (isDigit splitSign)

/-! ### Texts in another place -/

/-- The second text is the first with its line ends in another form and with `suffix` behind it. -/
inductive Inserted (suffix : List Char) : List Char → List Char → Prop where
  | nil : Inserted suffix [] suffix
  | cons (c : Char) {cs ds : List Char} (rest : Inserted suffix cs ds) :
      Inserted suffix (c :: cs) (c :: ds)
  | pair {cs ds : List Char} (rest : Inserted suffix cs ds) :
      Inserted suffix ('\r' :: '\n' :: cs) ('\n' :: ds)
  | single {cs ds : List Char} (rest : Inserted suffix cs ds) :
      Inserted suffix ('\r' :: cs) ('\n' :: ds)

/-- Whether a text may stand behind a document: nothing, or a comma and more. -/
def IsSeparate (suffix : List Char) : Prop := suffix.head?.getD ',' = ','

/-- Whether a character is neither a comma nor part of a line end. -/
def isInner (c : Char) : Bool := !(c == ',' || c == '\r' || c == '\n')

namespace Inserted
variable {suffix cs ds : List Char} {c : Char}

/-- A text with another one behind it. -/
theorem append (suffix cs : List Char) : Inserted suffix cs (cs ++ suffix) := by
  induction cs with
  | nil => exact nil
  | cons c cs ih => exact cons c ih

/-- A text with all its line ends alike. -/
theorem unifyBreaks (cs : List Char) : Inserted [] cs (Text.unifyBreaks cs) := by
  induction cs using Text.unifyBreaks.induct with
  | case1 => exact nil
  | case2 cs ih => exact pair ih
  | case3 cs hne ih =>
    rw [Text.unifyBreaks]
    · exact single ih
    · exact hne
  | case4 c cs hpair hsingle ih =>
    rw [Text.unifyBreaks]
    · exact cons c ih
    · exact hpair
    · exact hsingle

theorem of_nil (h : Inserted suffix [] ds) : ds = suffix := by
  cases h
  rfl

/-- What comes first is found again, unless it is part of a line end. -/
theorem of_cons (h : Inserted suffix (c :: cs) ds) (hc : c ≠ '\r') :
    ∃ ds', ds = c :: ds' ∧ Inserted suffix cs ds' := by
  cases h with
  | cons _ rest => exact ⟨_, rfl, rest⟩
  | pair => exact absurd rfl hc
  | single => exact absurd rfl hc

/-- A character inside a document was there before. -/
theorem of_head (hsuffix : IsSeparate suffix) (h : Inserted suffix cs (c :: ds))
    (hc : isInner c = true) : ∃ cs', cs = c :: cs' ∧ Inserted suffix cs' ds := by
  unfold isInner at hc
  cases h with
  | nil =>
    obtain rfl : c = ',' := hsuffix
    exact absurd hc nofun
  | cons _ rest => exact ⟨_, rfl, rest⟩
  | pair => exact absurd hc nofun
  | single => exact absurd hc nofun

/-- Both texts begin with a character, or neither does. -/
theorem head_cases (hsuffix : IsSeparate suffix) (h : Inserted suffix cs ds)
    (hc : isInner c = true) :
    (∃ cs' ds', cs = c :: cs' ∧ ds = c :: ds' ∧ Inserted suffix cs' ds') ∨
      (∀ more, cs ≠ c :: more) ∧ ∀ more, ds ≠ c :: more := by
  by_cases hhead : ∃ cs', cs = c :: cs'
  · obtain ⟨cs', rfl⟩ := hhead
    have hreturn : c ≠ '\r' := by
      rintro rfl
      exact absurd hc nofun
    obtain ⟨ds', rfl, hrest⟩ := h.of_cons hreturn
    exact Or.inl ⟨cs', ds', rfl, rfl, hrest⟩
  · refine Or.inr ⟨fun more hsame => hhead ⟨more, hsame⟩, ?_⟩
    rintro more rfl
    obtain ⟨cs', rfl, _⟩ := h.of_head hsuffix hc
    exact hhead ⟨cs', rfl⟩

/-- A row of characters inside a document is found again. -/
theorem span (hsuffix : IsSeparate suffix) {p : Char → Bool}
    (hp : ∀ c, p c = true → isInner c = true) (h : Inserted suffix cs ds) :
    ds.takeWhile p = cs.takeWhile p ∧ Inserted suffix (cs.dropWhile p) (ds.dropWhile p) := by
  have hbreak : p '\n' = false ∧ p '\r' = false :=
    ⟨Bool.eq_false_iff.2 fun hn => absurd (hp _ hn) nofun,
      Bool.eq_false_iff.2 fun hr => absurd (hp _ hr) nofun⟩
  induction h with
  | nil =>
    -- the row ends with the document, since a comma is not part of any
    cases suffix with
    | nil => exact ⟨rfl, nil⟩
    | cons c more =>
      have hcomma : p c = false := by
        obtain rfl : c = ',' := hsuffix
        exact Bool.eq_false_iff.2 fun hc => absurd (hp _ hc) nofun
      rw [List.takeWhile_cons, List.dropWhile_cons, hcomma]
      exact ⟨rfl, nil⟩
  | cons c rest ih =>
    rw [List.takeWhile_cons, List.takeWhile_cons, List.dropWhile_cons, List.dropWhile_cons]
    cases p c with
    | true => exact ⟨congrArg (c :: ·) ih.1, ih.2⟩
    | false => exact ⟨rfl, cons c rest⟩
  | pair rest =>
    simp only [List.takeWhile_cons, List.dropWhile_cons, hbreak.1, hbreak.2]
    exact ⟨rfl, pair rest⟩
  | single rest =>
    simp only [List.takeWhile_cons, List.dropWhile_cons, hbreak.1, hbreak.2]
    exact ⟨rfl, single rest⟩

/-- Blanks are skipped in both texts, in whatever form their line ends are. -/
theorem skipBlanks (hsuffix : IsSeparate suffix) (h : Inserted suffix cs ds) :
    Inserted suffix (Json.skipBlanks cs) (Json.skipBlanks ds) := by
  have hline : isBlank '\n' = true ∧ isBlank '\r' = true := ⟨rfl, rfl⟩
  unfold Json.skipBlanks
  induction h with
  | nil =>
    cases suffix with
    | nil => exact nil
    | cons c more =>
      obtain rfl : c = ',' := hsuffix
      exact nil
  | cons c rest ih =>
    rw [List.dropWhile_cons, List.dropWhile_cons]
    cases isBlank c with
    | true => exact ih
    | false => exact cons c rest
  | pair rest ih =>
    rw [List.dropWhile_cons_of_pos hline.2, List.dropWhile_cons_of_pos hline.1,
      List.dropWhile_cons_of_pos hline.1]
    exact ih
  | single rest ih =>
    rw [List.dropWhile_cons_of_pos hline.2, List.dropWhile_cons_of_pos hline.1]
    exact ih

/-- A word inside a document is found again. -/
theorem drop_of_isPrefixOf (hsuffix : IsSeparate suffix) {word : List Char}
    (hword : ∀ c ∈ word, isInner c = true) (h : Inserted suffix cs ds) :
    word.isPrefixOf ds = word.isPrefixOf cs ∧
      (word.isPrefixOf cs = true →
        Inserted suffix (cs.drop word.length) (ds.drop word.length)) := by
  induction word generalizing cs ds with
  | nil => exact ⟨rfl, fun _ => h⟩
  | cons w word ih =>
    obtain ⟨hw, hrest⟩ := List.forall_mem_cons.1 hword
    have hnone : ∀ text : List Char, (∀ more, text ≠ w :: more) →
        (w :: word).isPrefixOf text = false := by
      intro text hne
      cases text with
      | nil => rfl
      | cons c more =>
        have hc : (w == c) = false := beq_false_of_ne fun same => hne more (by rw [same])
        rw [List.isPrefixOf, hc]
        rfl
    rcases h.head_cases hsuffix hw with ⟨cs', ds', rfl, rfl, hinserted⟩ | ⟨hcs, hds⟩
    · rw [List.isPrefixOf_cons_cons_self, List.isPrefixOf_cons_cons_self]
      exact ih hrest hinserted
    · rw [hnone cs hcs, hnone ds hds]
      exact ⟨rfl, nofun⟩

end Inserted

/-! ### Words and numbers -/

/-- The results of a step on two texts: the same, with the same difference behind. -/
inductive InsertedStep {α : Type} (suffix : List Char) :
    Option (α × List Char) → Option (α × List Char) → Prop where
  | none : InsertedStep suffix .none .none
  | some (a : α) {rest rest' : List Char} (inserted : Inserted suffix rest rest') :
      InsertedStep suffix (.some (a, rest)) (.some (a, rest'))

namespace InsertedStep
variable {α : Type} {suffix : List Char} {x y : Option (α × List Char)}

theorem map_fst (h : InsertedStep suffix x y) : y.map (·.1) = x.map (·.1) := by
  cases h with
  | none => rfl
  | some => rfl

/-- What stands behind a step that may be left out. -/
theorem getD_snd (h : InsertedStep suffix x y) {cs ds : List Char} (hrest : Inserted suffix cs ds) :
    Inserted suffix ((x.map (·.2)).getD cs) ((y.map (·.2)).getD ds) := by
  cases h with
  | none => exact hrest
  | some _ inserted => exact inserted

end InsertedStep

theorem isInner_of_isDigit {c : Char} (hc : isDigit c = true) : isInner c = true := by
  unfold isInner
  rw [Bool.not_eq_true', ← Bool.not_eq_true]
  intro hmark
  simp only [Bool.or_eq_true, beq_iff_eq] at hmark
  rcases hmark with (rfl | rfl) | rfl <;> exact absurd hc (by decide)

theorem wholePart_of_ne {cs : List Char} (h : ∀ more, cs ≠ '0' :: more) :
    wholePart cs = if (cs.takeWhile isDigit).isEmpty then none
      else some (cs.takeWhile isDigit, cs.dropWhile isDigit) := by
  unfold wholePart
  split
  · next more => exact absurd rfl (h more)
  · rfl

theorem fractionPart_of_ne {cs : List Char} (h : ∀ more, cs ≠ '.' :: more) :
    fractionPart cs = none := by
  unfold fractionPart
  split
  · next more => exact absurd rfl (h more)
  · rfl

theorem splitSign_of_ne {cs : List Char} (hminus : ∀ more, cs ≠ '-' :: more)
    (hplus : ∀ more, cs ≠ '+' :: more) : splitSign cs = (false, cs) := by
  unfold splitSign
  split
  · next more => exact absurd rfl (hminus more)
  · next more => exact absurd rfl (hplus more)
  · rfl

theorem exponentPart_of_ne {cs : List Char} (hsmall : ∀ more, cs ≠ 'e' :: more)
    (hlarge : ∀ more, cs ≠ 'E' :: more) : exponentPart cs = none := by
  cases cs with
  | nil => rfl
  | cons c cs =>
    rw [exponentPart]
    refine if_neg ?_
    rintro (rfl | rfl)
    · exact hsmall cs rfl
    · exact hlarge cs rfl

section scalars
variable {suffix cs ds : List Char} (hsuffix : IsSeparate suffix) (h : Inserted suffix cs ds)
include hsuffix h

/-- A row of digits, if there are any. -/
theorem insertedStep_digits : InsertedStep suffix
    (if (cs.takeWhile isDigit).isEmpty then none
      else some (cs.takeWhile isDigit, cs.dropWhile isDigit))
    (if (ds.takeWhile isDigit).isEmpty then none
      else some (ds.takeWhile isDigit, ds.dropWhile isDigit)) := by
  obtain ⟨hdigits, hrest⟩ := h.span hsuffix fun _ => isInner_of_isDigit
  rw [hdigits]
  split
  · exact .none
  · exact .some _ hrest

theorem insertedStep_wholePart : InsertedStep suffix (wholePart cs) (wholePart ds) := by
  have hzero : isInner '0' = true := by decide
  rcases h.head_cases hsuffix hzero with ⟨cs', ds', rfl, rfl, hrest⟩ | ⟨hcs, hds⟩
  · exact .some _ hrest
  · rw [wholePart_of_ne hcs, wholePart_of_ne hds]
    exact insertedStep_digits hsuffix h

theorem insertedStep_fractionPart : InsertedStep suffix (fractionPart cs) (fractionPart ds) := by
  have hpoint : isInner '.' = true := by decide
  rcases h.head_cases hsuffix hpoint with ⟨cs', ds', rfl, rfl, hrest⟩ | ⟨hcs, hds⟩
  · exact insertedStep_digits hsuffix hrest
  · rw [fractionPart_of_ne hcs, fractionPart_of_ne hds]
    exact .none

theorem inserted_splitSign : (splitSign ds).1 = (splitSign cs).1 ∧
    Inserted suffix (splitSign cs).2 (splitSign ds).2 := by
  have hminus : isInner '-' = true := by decide
  have hplus : isInner '+' = true := by decide
  rcases h.head_cases hsuffix hminus with ⟨cs', ds', rfl, rfl, hrest⟩ | ⟨hcs, hds⟩
  · exact ⟨rfl, hrest⟩
  rcases h.head_cases hsuffix hplus with ⟨cs', ds', rfl, rfl, hrest⟩ | ⟨hcs', hds'⟩
  · exact ⟨rfl, hrest⟩
  rw [splitSign_of_ne hcs hcs', splitSign_of_ne hds hds']
  exact ⟨rfl, h⟩

/-- The exponent behind its mark. -/
theorem insertedStep_exponent {c : Char} (hc : c = 'e' ∨ c = 'E') :
    InsertedStep suffix (exponentPart (c :: cs)) (exponentPart (c :: ds)) := by
  obtain ⟨hsign, hsigned⟩ := inserted_splitSign hsuffix h
  obtain ⟨hdigits, hrest⟩ := hsigned.span hsuffix fun _ => isInner_of_isDigit
  rw [exponentPart, exponentPart, if_pos hc, if_pos hc]
  dsimp only
  rw [hsign, hdigits]
  split
  · exact .none
  · exact .some _ hrest

theorem insertedStep_exponentPart : InsertedStep suffix (exponentPart cs) (exponentPart ds) := by
  have hsmall : isInner 'e' = true := by decide
  have hlarge : isInner 'E' = true := by decide
  rcases h.head_cases hsuffix hsmall with ⟨cs', ds', rfl, rfl, hrest⟩ | ⟨hcs, hds⟩
  · exact insertedStep_exponent hsuffix hrest (Or.inl rfl)
  rcases h.head_cases hsuffix hlarge with ⟨cs', ds', rfl, rfl, hrest⟩ | ⟨hcs', hds'⟩
  · exact insertedStep_exponent hsuffix hrest (Or.inr rfl)
  rw [exponentPart_of_ne hcs hcs', exponentPart_of_ne hds hds']
  exact .none

theorem inserted_readNumber {negative : Bool} {start rest : List Char} {v : Value}
    (hread : readNumber negative start cs = .ok (v, rest)) (start' : List Char) :
    ∃ rest', readNumber negative start' ds = .ok (v, rest') ∧ Inserted suffix rest rest' := by
  have hwhole := insertedStep_wholePart hsuffix h
  unfold readNumber at hread ⊢
  generalize wholePart cs = x at hread hwhole
  generalize wholePart ds = y at hwhole
  cases hwhole with
  | none => exact absurd hread nofun
  | some whole hbehind =>
    dsimp only at hread ⊢
    have hfraction := insertedStep_fractionPart hsuffix hbehind
    have hexponent := insertedStep_exponentPart hsuffix (hfraction.getD_snd hbehind)
    obtain ⟨w, hw, hpair⟩ := Result.map_eq_ok.1 hread
    obtain ⟨rfl, rfl⟩ := Prod.mk.inj hpair
    refine ⟨_, ?_, hexponent.getD_snd (hfraction.getD_snd hbehind)⟩
    rw [hfraction.map_fst, hexponent.map_fst]
    exact Result.map_eq_ok.2 ⟨w, hw, rfl⟩

/-- The first of some words that a text begins with. -/
theorem insertedStep_findSome? {table : List (String × Value)}
    (htable : ∀ word ∈ table, ∀ c ∈ word.1.toList, isInner c = true) :
    InsertedStep suffix
      (table.findSome? fun word =>
        if word.1.toList.isPrefixOf cs then some (word.2, cs.drop word.1.length) else none)
      (table.findSome? fun word =>
        if word.1.toList.isPrefixOf ds then some (word.2, ds.drop word.1.length) else none) := by
  induction table with
  | nil => exact .none
  | cons word table ih =>
    obtain ⟨hword, hrest⟩ := List.forall_mem_cons.1 htable
    obtain ⟨hbegins, hdrop⟩ := h.drop_of_isPrefixOf hsuffix hword
    rw [List.findSome?_cons, List.findSome?_cons, hbegins]
    cases hfound : word.1.toList.isPrefixOf cs with
    | true =>
      have hinserted := hdrop hfound
      rw [String.length_toList] at hinserted
      exact .some _ hinserted
    | false => exact ih hrest

theorem insertedStep_readWord : InsertedStep suffix (readWord cs) (readWord ds) := by
  have hall : (words.all fun word => word.1.toList.all isInner) = true := by decide
  refine insertedStep_findSome? hsuffix h fun word hword => ?_
  exact List.all_eq_true.1 (List.all_eq_true.1 hall word hword)

/-- A word or a number is read in another place. -/
theorem inserted_readScalar {rest : List Char} {v : Value}
    (hread : readScalar cs = .ok (v, rest)) :
    ∃ rest', readScalar ds = .ok (v, rest') ∧ Inserted suffix rest rest' := by
  have hword := insertedStep_readWord hsuffix h
  unfold readScalar at hread ⊢
  generalize readWord cs = x at hread hword
  generalize readWord ds = y at hword
  cases hword with
  | some w hrest =>
    obtain ⟨rfl, rfl⟩ := Prod.mk.inj (Except.ok.inj hread)
    exact ⟨_, rfl, hrest⟩
  | none =>
    dsimp only at hread ⊢
    have hminus : isInner '-' = true := by decide
    rcases h.head_cases hsuffix hminus with ⟨cs', ds', rfl, rfl, hbehind⟩ | ⟨hcs, hds⟩
    · exact inserted_readNumber hsuffix hbehind hread _
    · split at hread
      · next more => exact absurd rfl (hcs more)
      · exact inserted_readNumber hsuffix h hread _

end scalars

/-! ### Strings -/

theorem ne_of_hexValue? {c : Char} {n : Nat} (h : Text.hexValue? c = some n) : c ≠ '\r' := by
  rintro rfl
  have hnone : Text.hexValue? '\r' = none := by decide
  rw [hnone] at h
  exact absurd h nofun

section strings
variable {suffix cs ds : List Char} (hsuffix : IsSeparate suffix) (h : Inserted suffix cs ds)

include h in
/-- A character that follows in one text follows in the other. -/
theorem Inserted.exists_cons (hcs : cs ≠ []) : ∃ next more, ds = next :: more := by
  cases h with
  | nil => exact absurd rfl hcs
  | cons c rest => exact ⟨_, _, rfl⟩
  | pair rest => exact ⟨_, _, rfl⟩
  | single rest => exact ⟨_, _, rfl⟩

include h in
theorem inserted_readUnit {rest : List Char} {u : Nat} (hread : readUnit cs = some (u, rest)) :
    ∃ rest', readUnit ds = some (u, rest') ∧ Inserted suffix rest rest' := by
  obtain ⟨a, b, c, d, next, more, rfl, rfl, w, x, y, z, hw, hx, hy, hz, rfl⟩ :=
    exists_of_readUnit hread
  -- a digit is part of no line end, so all four stand in the other text as well
  obtain ⟨ds₁, rfl, h₁⟩ := h.of_cons (ne_of_hexValue? hw)
  obtain ⟨ds₂, rfl, h₂⟩ := h₁.of_cons (ne_of_hexValue? hx)
  obtain ⟨ds₃, rfl, h₃⟩ := h₂.of_cons (ne_of_hexValue? hy)
  obtain ⟨ds₄, rfl, h₄⟩ := h₃.of_cons (ne_of_hexValue? hz)
  obtain ⟨next', more', rfl⟩ := h₄.exists_cons (List.cons_ne_nil next more)
  refine ⟨next' :: more', ?_, h₄⟩
  rw [readUnit, hw, hx, hy, hz]

include h in
/-- What completes a high surrogate. -/
theorem inserted_readPartner {high : Nat} {c : Char} {after : List Char}
    (hread : readPartner high cs = .ok (c, after)) :
    ∃ after', readPartner high ds = .ok (c, after') ∧ Inserted suffix after after' := by
  obtain ⟨digits, low, rfl, hunit, hlow, hc⟩ := readPartner_eq_ok.1 hread
  obtain ⟨ds₁, rfl, h₁⟩ := h.of_cons (by decide)
  obtain ⟨digits', rfl, hdigits⟩ := h₁.of_cons (by decide)
  obtain ⟨after', hunit', hafter⟩ := inserted_readUnit hdigits hunit
  exact ⟨after', readPartner_eq_ok.2 ⟨digits', low, rfl, hunit', hlow, hc⟩, hafter⟩

include h in
theorem inserted_readEscape {c : Char} {start after : List Char}
    (hread : readEscape start cs = .ok (c, after)) :
    ∃ after', (∀ start', readEscape start' ds = .ok (c, after')) ∧
      Inserted suffix after after' := by
  rcases readEscape_eq_ok.1 hread with ⟨digits, u, behind, rfl, hunit, hu⟩ | ⟨letter, rfl, hplain⟩
  · obtain ⟨digits', rfl, hdigits⟩ := h.of_cons (by decide)
    obtain ⟨behind', hunit', hbehind⟩ := inserted_readUnit hdigits hunit
    -- a high surrogate is followed by the same partner as before
    have hcharacter : ∃ after', (if isHighSurrogate u then readPartner u behind'
        else (unitChar u).map fun c => (c, behind')) = .ok (c, after') ∧
          Inserted suffix after after' := by
      split at hu
      · next hhigh =>
        rw [if_pos hhigh]
        exact inserted_readPartner hbehind hu
      · next hhigh =>
        rw [if_neg hhigh]
        obtain ⟨plain, hplain, hu⟩ := Result.map_eq_ok.1 hu
        obtain ⟨rfl, rfl⟩ := Prod.mk.inj hu
        exact ⟨behind', Result.map_eq_ok.2 ⟨plain, hplain, rfl⟩, hbehind⟩
    obtain ⟨after', hu', hafter⟩ := hcharacter
    exact ⟨after', fun _ => readEscape_eq_ok.2 (Or.inl ⟨digits', u, behind', rfl, hunit', hu'⟩),
      hafter⟩
  · have hreturn : letter ≠ '\r' := by
      rintro rfl
      cases hplain
    obtain ⟨more', rfl, hmore⟩ := h.of_cons hreturn
    exact ⟨more', fun _ => readEscape_eq_ok.2 (Or.inr ⟨letter, rfl, hplain⟩), hmore⟩

/-- The characters of a string are read in another place. -/
theorem inserted_readChars {fuel : Nat} {start cs ds chars rest : List Char}
    (hread : readChars start fuel cs = .ok (chars, rest)) (h : Inserted suffix cs ds) :
    ∃ rest', ReadsChars ds chars rest' ∧ Inserted suffix rest rest' := by
  induction fuel generalizing cs ds chars with
  | zero => exact absurd hread nofun
  | succ fuel ih =>
    unfold readChars at hread
    split at hread
    · next hzero => exact absurd hzero (Nat.succ_ne_zero fuel)
    · exact absurd hread nofun
    · obtain ⟨rfl, rfl⟩ := Prod.mk.inj (Except.ok.inj hread)
      obtain ⟨ds', rfl, hrest⟩ := h.of_cons (by decide)
      exact ⟨ds', ReadsChars.close ds', hrest⟩
    · next hsucc =>
      obtain rfl := Nat.succ.inj hsucc
      obtain ⟨⟨c, after⟩, hescape, hread⟩ := Result.bind_eq_ok.1 hread
      obtain ⟨⟨others, behind⟩, hothers, hread⟩ := Result.bind_eq_ok.1 hread
      obtain ⟨rfl, rfl⟩ := Prod.mk.inj (Except.ok.inj hread)
      obtain ⟨ds', rfl, hcs⟩ := h.of_cons (by decide)
      obtain ⟨after', hescape', hafter⟩ := inserted_readEscape hcs hescape
      obtain ⟨rest', hreads, hrest⟩ := ih hothers hafter
      exact ⟨rest', ReadsChars.escape hescape' hreads, hrest⟩
    · -- a character that stands for itself is no control character, so it is no line break
      next c cs hquote hslash hsucc =>
      obtain rfl := Nat.succ.inj hsucc
      split at hread
      · exact absurd hread nofun
      · next hcontrol =>
        obtain ⟨⟨others, behind⟩, hothers, hread⟩ := Result.bind_eq_ok.1 hread
        obtain ⟨rfl, rfl⟩ := Prod.mk.inj (Except.ok.inj hread)
        have hplain : 32 ≤ c.toNat := Nat.not_lt.1 hcontrol
        have hreturn : c ≠ '\r' := by
          rintro rfl
          exact absurd hplain (by decide)
        obtain ⟨ds', rfl, hcs⟩ := h.of_cons hreturn
        obtain ⟨rest', hreads, hrest⟩ := ih hothers hcs
        refine ⟨rest', ReadsChars.plain ?_ ?_ hplain hreads, hrest⟩
        · exact fun hsame => hquote hsame
        · exact fun hsame => hslash hsame

/-- A string is read in another place. -/
theorem inserted_readString {cs ds rest : List Char} {s : String}
    (hread : readString cs = .ok (s, rest)) (h : Inserted suffix cs ds) :
    ∃ chars rest', s = String.ofList chars ∧ ReadsChars ds chars rest' ∧
      Inserted suffix rest rest' := by
  obtain ⟨⟨chars, behind⟩, hchars, hread⟩ := Result.bind_eq_ok.1 hread
  obtain ⟨rfl, rfl⟩ := Prod.mk.inj (Except.ok.inj hread)
  obtain ⟨rest', hreads, hrest⟩ := inserted_readChars hchars h
  exact ⟨chars, rest', rfl, hreads, hrest⟩

end strings

/-! ### Values -/

section step
variable {suffix : List Char} (hsuffix : IsSeparate suffix) {fuel : Nat}
  (hvalue : ∀ {cs v rest ds}, readValue fuel cs = .ok (v, rest) → Inserted suffix cs ds →
    ∃ rest', Reads ds v rest' ∧ Inserted suffix rest rest')
  (hitems : ∀ {cs vs rest ds}, readItems fuel cs = .ok (vs, rest) → Inserted suffix cs ds →
    ∃ rest', ReadsItems ds vs rest' ∧ Inserted suffix rest rest')
  (hmembers : ∀ {cs known members rest ds}, readMembers fuel cs known = .ok (members, rest) →
    Inserted suffix cs ds →
      ∃ rest', ReadsMembers ds known members rest' ∧ Inserted suffix rest rest')

include hsuffix in
/-- A mark behind blanks is found in another place. -/
theorem inserted_mark {cs ds rest : List Char} {c : Char} (h : Inserted suffix cs ds)
    (hmark : skipBlanks cs = c :: rest) (hc : c ≠ '\r') :
    ∃ rest', skipBlanks ds = c :: rest' ∧ Inserted suffix rest rest' := by
  have hskipped := h.skipBlanks hsuffix
  rw [hmark] at hskipped
  exact hskipped.of_cons hc

include hsuffix hitems hmembers in
/-- A value: a string, a list, an object, a word or a number. -/
theorem inserted_readValue_succ {cs ds rest : List Char} {v : Value}
    (hread : readValue (fuel + 1) cs = .ok (v, rest)) (h : Inserted suffix cs ds) :
    ∃ rest', Reads ds v rest' ∧ Inserted suffix rest rest' := by
  obtain ⟨c, more, rfl, hblank, _⟩ := exists_head_of_readValue hread
  have hreturn : c ≠ '\r' := by
    rintro rfl
    exact absurd hblank nofun
  obtain ⟨ds, rfl, hmore⟩ := h.of_cons hreturn
  -- the first character says what is read
  cases hopening : isOpening c with
  | false =>
    rw [readValue_scalar fuel hopening] at hread
    obtain ⟨rest', hscalar, hrest⟩ := inserted_readScalar hsuffix h hread
    exact ⟨rest', Reads.scalar hopening hscalar, hrest⟩
  | true =>
    unfold isOpening at hopening
    simp only [Bool.or_eq_true, beq_iff_eq] at hopening
    rcases hopening with (rfl | rfl) | rfl
    · rw [readValue_quote] at hread
      obtain ⟨⟨s, behind⟩, hstring, hread⟩ := Result.bind_eq_ok.1 hread
      obtain ⟨rfl, rfl⟩ := Prod.mk.inj (Except.ok.inj hread)
      obtain ⟨chars, rest', rfl, hreads, hrest⟩ := inserted_readString hstring hmore
      exact ⟨rest', Reads.string hreads, hrest⟩
    · rw [readValue_bracket] at hread
      split at hread
      · next hclose =>
        obtain ⟨rfl, rfl⟩ := Prod.mk.inj (Except.ok.inj hread)
        obtain ⟨rest', hclose', hrest⟩ := inserted_mark hsuffix hmore hclose (by decide)
        exact ⟨rest', Reads.emptyList hclose', hrest⟩
      · obtain ⟨⟨vs, behind⟩, hvs, hread⟩ := Result.bind_eq_ok.1 hread
        obtain ⟨rfl, rfl⟩ := Prod.mk.inj (Except.ok.inj hread)
        obtain ⟨rest', hreads, hrest⟩ := hitems hvs (hmore.skipBlanks hsuffix)
        exact ⟨rest', Reads.list hreads, hrest⟩
    · rw [readValue_brace] at hread
      split at hread
      · next hclose =>
        obtain ⟨rfl, rfl⟩ := Prod.mk.inj (Except.ok.inj hread)
        obtain ⟨rest', hclose', hrest⟩ := inserted_mark hsuffix hmore hclose (by decide)
        exact ⟨rest', Reads.emptyMap hclose', hrest⟩
      · obtain ⟨⟨members, behind⟩, hpairs, hread⟩ := Result.bind_eq_ok.1 hread
        obtain ⟨rfl, rfl⟩ := Prod.mk.inj (Except.ok.inj hread)
        obtain ⟨rest', hreads, hrest⟩ := hmembers hpairs (hmore.skipBlanks hsuffix)
        exact ⟨rest', Reads.map hreads, hrest⟩

include hsuffix hvalue hitems in
/-- The items of a list: the first one, and those behind its comma. -/
theorem inserted_readItems_succ {cs ds rest : List Char} {vs : List Value}
    (hread : readItems (fuel + 1) cs = .ok (vs, rest)) (h : Inserted suffix cs ds) :
    ∃ rest', ReadsItems ds vs rest' ∧ Inserted suffix rest rest' := by
  rw [readItems_succ] at hread
  obtain ⟨⟨first, after⟩, hfirst, hread⟩ := Result.bind_eq_ok.1 hread
  obtain ⟨after', hreads, hafter⟩ := hvalue hfirst h
  dsimp only at hread
  split at hread
  · next hclose =>
    obtain ⟨rfl, rfl⟩ := Prod.mk.inj (Except.ok.inj hread)
    obtain ⟨rest', hclose', hrest⟩ := inserted_mark hsuffix hafter hclose (by decide)
    exact ⟨rest', ReadsItems.last hreads hclose', hrest⟩
  · next hcomma =>
    obtain ⟨⟨others, behind⟩, hothers, hread⟩ := Result.bind_eq_ok.1 hread
    obtain ⟨rfl, rfl⟩ := Prod.mk.inj (Except.ok.inj hread)
    obtain ⟨more', hcomma', hmore⟩ := inserted_mark hsuffix hafter hcomma (by decide)
    obtain ⟨rest', hbehind, hrest⟩ := hitems hothers (hmore.skipBlanks hsuffix)
    exact ⟨rest', ReadsItems.cons hreads hcomma' hbehind, hrest⟩
  · cases hread

include hsuffix hvalue hmembers in
/-- The members of an object: the first one, and those behind its comma. -/
theorem inserted_readMembers_succ {cs ds rest : List Char} {known members : Entries}
    (hread : readMembers (fuel + 1) cs known = .ok (members, rest)) (h : Inserted suffix cs ds) :
    ∃ rest', ReadsMembers ds known members rest' ∧ Inserted suffix rest rest' := by
  unfold readMembers at hread
  split at hread
  · next hzero => exact absurd hzero (Nat.succ_ne_zero fuel)
  · next hsucc =>
    obtain rfl := Nat.succ.inj hsucc
    obtain ⟨ds, rfl, hmore⟩ := h.of_cons (by decide)
    obtain ⟨⟨key, afterKey⟩, hkey, hread⟩ := Result.bind_eq_ok.1 hread
    obtain ⟨chars, afterKey', rfl, hchars, hbehindKey⟩ := inserted_readString hkey hmore
    dsimp only at hread
    split at hread
    · next hcolon =>
      obtain ⟨⟨value, afterValue⟩, hv, hread⟩ := Result.bind_eq_ok.1 hread
      obtain ⟨afterColon', hcolon', hbehindColon⟩ :=
        inserted_mark hsuffix hbehindKey hcolon (by decide)
      obtain ⟨afterValue', hreads, hbehindValue⟩ := hvalue hv (hbehindColon.skipBlanks hsuffix)
      dsimp only at hread
      split at hread
      · next hclose =>
        obtain ⟨rfl, rfl⟩ := Prod.mk.inj (Except.ok.inj hread)
        obtain ⟨rest', hclose', hrest⟩ := inserted_mark hsuffix hbehindValue hclose (by decide)
        exact ⟨rest', ReadsMembers.last hchars hcolon' hreads hclose', hrest⟩
      · next hcomma =>
        obtain ⟨more', hcomma', hmore'⟩ := inserted_mark hsuffix hbehindValue hcomma (by decide)
        obtain ⟨rest', hothers, hrest⟩ := hmembers hread (hmore'.skipBlanks hsuffix)
        exact ⟨rest', ReadsMembers.cons hchars hcolon' hreads hcomma' hothers, hrest⟩
      · cases hread
    · cases hread
  · cases hread

end step

/-- Values, the items of a list and the members of an object are read in another place. -/
theorem inserted_readValue {suffix : List Char} (hsuffix : IsSeparate suffix) (fuel : Nat) :
    (∀ {cs v rest ds}, readValue fuel cs = .ok (v, rest) → Inserted suffix cs ds →
      ∃ rest', Reads ds v rest' ∧ Inserted suffix rest rest') ∧
    (∀ {cs vs rest ds}, readItems fuel cs = .ok (vs, rest) → Inserted suffix cs ds →
      ∃ rest', ReadsItems ds vs rest' ∧ Inserted suffix rest rest') ∧
    (∀ {cs known members rest ds}, readMembers fuel cs known = .ok (members, rest) →
      Inserted suffix cs ds →
        ∃ rest', ReadsMembers ds known members rest' ∧ Inserted suffix rest rest') := by
  induction fuel with
  | zero => exact ⟨fun h => absurd h nofun, fun h => absurd h nofun, fun h => absurd h nofun⟩
  | succ fuel ih =>
    obtain ⟨hvalue, hitems, hmembers⟩ := ih
    exact ⟨inserted_readValue_succ hsuffix hitems hmembers,
      inserted_readItems_succ hsuffix hvalue hitems,
      inserted_readMembers_succ hsuffix hvalue hmembers⟩

/-! ### Documents -/

/-- A document is read in another place, up to what stands behind it there. -/
theorem exists_reads_insert {suffix text ds : List Char} (hsuffix : IsSeparate suffix) {v : Value}
    (hread : read text = .ok v) (h : Inserted suffix text ds) :
    ∃ rest, Reads (skipBlanks ds) v rest ∧ skipBlanks rest = suffix := by
  unfold read at hread
  split at hread
  · exact absurd hread nofun
  · obtain ⟨⟨w, rest⟩, hvalue, hread⟩ := Result.bind_eq_ok.1 hread
    obtain ⟨rest', hreads, hrest⟩ :=
      (inserted_readValue hsuffix _).1 hvalue (h.skipBlanks hsuffix)
    dsimp only at hread
    split at hread
    · next hend =>
      obtain rfl := Except.ok.inj hread
      have hbehind := hrest.skipBlanks hsuffix
      rw [hend] at hbehind
      exact ⟨rest', hreads, hbehind.of_nil⟩
    · exact absurd hread nofun

/-- The form of the line ends does not bear on what is read. -/
theorem read_unifyBreaks {text : List Char} {v : Value} (hread : read text = .ok v) :
    read (Text.unifyBreaks text) = .ok v := by
  have hnothing : IsSeparate [] := rfl
  obtain ⟨rest, hreads, hrest⟩ := exists_reads_insert hnothing hread (.unifyBreaks text)
  exact read_of_reads hreads hrest

end LayerGraph.Json
