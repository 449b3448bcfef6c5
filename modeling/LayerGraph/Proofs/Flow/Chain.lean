import LayerGraph.Proofs.Flow.Bodies
import LayerGraph.Proofs.Flow.Walking

/-! # Chains of layers

    A data flow that passes a value through layers, one statement for each, and gives it back at the
    end (`chainLines`). Its names are read one by one (`exists_tokens_chain`): in each of them the
    names of layers that it falls into get `self.` in front (`boundName`), and nothing else changes,
    unless the parameter itself falls into the name of a layer, which would then be rebound. So the
    chain is bound as it should be exactly if every name in it would be where it stands alone
    (`bind_chain_iff`). Names that are words are (`bind_word`). A name that holds another character
    falls apart, and is not bound to its layer, unless one of its words happens to be a layer too
    (`bind_of_not_isWord`).
-/

namespace LayerGraph.Flow

/-! ### Statements of a chain -/

/-- A sign at a place. -/
def signAt (c : Char) (line column : Nat) : Token := ⟨.operator, [c], line, column⟩

/-- The end of a line at a place. -/
def endAt (line column : Nat) : Token := ⟨.newline, ['\n'], line, column⟩

theorem nextIsNot_sign {ops : List String} {c : Char} (h : String.ofList [c] ∉ ops)
    (line column : Nat) (later : List Token) : NextIsNot ops (signAt c line column :: later) := by
  rw [NextIsNot, codeAhead, List.dropWhile_cons_of_neg (by simp [signAt, Token.carriesCode])]
  rintro _ ⟨⟩
  exact h

theorem beforeIsNoPoint_sign {c : Char} (h : c ≠ '.') (line column : Nat) :
    BeforeIsNoPoint (some (signAt c line column)) := by
  rintro _ ⟨⟩
  exact beq_false_of_ne fun hsame => h (List.cons.inj hsame).1

section walk
variable {attributes : List String} {before? : Option Token} {depth : Nat} {statement : List Place}
  {line column : Nat} {later : List Token}

theorem references_equals :
    references attributes ⟨0, statement⟩ (places before? (signAt '=' line column :: later)) =
      (checkTargets attributes statement.reverse).bind fun _ =>
        references attributes ⟨0, ⟨signAt '=' line column, before?, codeAhead later⟩ :: statement⟩
          (places (some (signAt '=' line column)) later) := by
  have hstep : stepOperator attributes ⟨0, statement⟩
      ⟨signAt '=' line column, before?, codeAhead later⟩ =
      (checkTargets attributes statement.reverse).bind fun _ =>
        .ok ⟨0, ⟨signAt '=' line column, before?, codeAhead later⟩ :: statement⟩ := rfl
  rw [signAt] at hstep ⊢
  rw [places, references, hstep]
  cases checkTargets attributes statement.reverse <;> rfl

theorem references_opener :
    references attributes ⟨depth, statement⟩ (places before? (signAt '(' line column :: later)) =
      references attributes
        ⟨depth + 1, ⟨signAt '(' line column, before?, codeAhead later⟩ :: statement⟩
        (places (some (signAt '(' line column)) later) := rfl

theorem references_closer :
    references attributes ⟨depth, statement⟩ (places before? (signAt ')' line column :: later)) =
      references attributes
        ⟨depth - 1, ⟨signAt ')' line column, before?, codeAhead later⟩ :: statement⟩
        (places (some (signAt ')' line column)) later) := rfl

theorem references_end :
    references attributes ⟨depth, statement⟩ (places before? (endAt line column :: later)) =
      references attributes ⟨depth, []⟩ (places (some (endAt line column)) later) := rfl

end walk

/-- The tokens of a statement that passes a value through a layer, from those of the names and the
    columns of the signs. -/
def linkTokens (line : Nat) (x a x' : List Token) (equals opener closer ending : Nat) :
    List Token :=
  x ++ signAt '=' line equals :: (a ++ signAt '(' line opener ::
    (x' ++ [signAt ')' line closer, endAt line ending]))

theorem references_link {attributes : List String} (hself : "self" ∉ attributes)
    {x a x' : List Token} (hx : ∀ t ∈ x, t.IsInert) (ha : ∀ t ∈ a, t.IsInert)
    (hx' : ∀ t ∈ x', t.IsInert) {before? : Option Token} (hbefore : BeforeIsNoPoint before?)
    (line equals opener closer ending : Nat) (later : List Token) :
    let walked := references attributes .start
      (places before? (linkTokens line x a x' equals opener closer ending ++ later))
    (x.filter (·.isLayer attributes) = [] → walked =
      (a.filter (·.isLayer attributes) ++ x'.filter (·.isLayer attributes) ++ ·) <$>
        references attributes .start (places (some (endAt line ending)) later)) ∧
    (x.filter (·.isLayer attributes) ≠ [] → ∃ reason, walked = .error reason) := by
  intro walked
  let inside := x' ++ signAt ')' line closer :: endAt line ending :: later
  let value := a ++ signAt '(' line opener :: inside
  have hsplit : linkTokens line x a x' equals opener closer ending ++ later =
      x ++ signAt '=' line equals :: value := by
    simp [linkTokens, value, inside]
  have hequals : NextIsNot ["."] (signAt '=' line equals :: value) :=
    nextIsNot_sign (by decide) _ _ _
  have hopener : NextIsNot ["."] (signAt '(' line opener :: inside) :=
    nextIsNot_sign (by decide) _ _ _
  have hcloser {op : String} (hop : op ≠ ")") :
      NextIsNot [op] (signAt ')' line closer :: endAt line ending :: later) :=
    nextIsNot_sign (by simpa using hop.symm) _ _ _
  have htargets : rebound? attributes 0 (placesOf before? (signAt '=' line equals :: value) x) =
      (x.find? (·.isLayer attributes)).map fun t => (t.string, t.line) :=
    rebound?_placesOf hx hbefore (nextIsNot_sign (by decide) _ _ _)
  have hwalked : walked = (x.filter (·.isLayer attributes) ++ ·) <$>
      references attributes ⟨0, (placesOf before? (signAt '=' line equals :: value) x).reverse⟩
        (places (x.getLast?.or before?) (signAt '=' line equals :: value)) := by
    have hfound := references_of_isInert hself hx hbefore hequals (Or.inl Walk.start_depth)
    rw [Walk.start, List.append_nil] at hfound
    rw [← hfound, ← hsplit]
    rfl
  -- at the sign the targets are known: if a layer is among them, the walk ends here
  rw [references_equals, List.reverse_reverse, checkTargets, htargets] at hwalked
  constructor
  · intro hnone
    have hfind := List.find?_eq_none.2 (List.filter_eq_nil_iff.1 hnone)
    have hname := beforeIsNoPoint_sign (c := '=') (by decide) line equals
    have hparameter := beforeIsNoPoint_sign (c := '(') (by decide) line opener
    rw [hwalked, hnone, hfind, Option.map_none]
    show ([] ++ ·) <$> references attributes _ (places _ value) = _
    rw [references_of_isInert hself ha hname hopener (Or.inl rfl), references_opener,
      references_of_isInert hself hx' hparameter (hcloser (by decide))
        (Or.inr (hcloser (by decide))),
      references_closer, references_end]
    rw [map_append_map_append, map_append_map_append, List.nil_append]
    rfl
  · intro hsome
    cases hfind : x.find? (·.isLayer attributes) with
    | none => exact absurd (List.filter_eq_nil_iff.2 (List.find?_eq_none.1 hfind)) hsome
    | some t =>
      rw [hfind] at hwalked
      exact ⟨_, hwalked⟩

/-- In the last statement of a text that is no assignment all names of layers are references. -/
theorem references_last {attributes : List String} (hself : "self" ∉ attributes) {ts : List Token}
    (hts : ∀ t ∈ ts, t.IsInert) {before? : Option Token} (hbefore : BeforeIsNoPoint before?)
    (line column : Nat) :
    references attributes .start
        (places before? (ts ++ [endAt line column, ⟨.endMarker, [], line + 1, 0⟩])) =
      .ok (ts.filter (·.isLayer attributes)) := by
  have hnext {op : String} (hop : op ≠ "\n") :
      NextIsNot [op] [endAt line column, ⟨.endMarker, [], line + 1, 0⟩] := by
    rintro _ ⟨⟩ hmem
    exact hop (List.mem_singleton.1 hmem).symm
  rw [references_of_isInert hself hts hbefore (hnext (by decide)) (Or.inl rfl)]
  exact congrArg Except.ok (List.append_nil _)

/-! ### Lines of a chain -/

/-- Whether a text is one that may be a name. -/
structure IsNameText (name : List Char) : Prop where
  nonempty : name ≠ []
  part : ∀ c ∈ name, Text.isIdentifierPart c = true

/-- The statement that passes a value through a layer. -/
def linkLine (x a : List Char) : List Char :=
  x ++ (" =".toList ++ (' ' :: a ++ ('(' :: (x ++ [')']))))

/-- The statement that gives the value back. -/
def lastLine (x : List Char) : List Char := "return ".toList ++ x

theorem isNameText_of_isName {name : String} (h : Text.isName name = true) :
    IsNameText name.toList := by
  refine ⟨?_, Text.isIdentifierPart_of_isName h⟩
  obtain ⟨first, rest, hname, -⟩ := Text.exists_of_isName h
  rw [hname]
  exact List.cons_ne_nil _ _

/-- A keyword is no name, but its text is read in the same way. -/
theorem isNameText_return : IsNameText "return".toList :=
  ⟨by decide, List.all_eq_true.1 rfl⟩

theorem endsWord_cons {c : Char}
    (h : Text.isWord c = false ∧ isQuote c = false ∧ c ∉ ['.', '+', '-']) (cs : List Char) :
    EndsWord (c :: cs) := by
  rintro _ ⟨⟩
  exact h

theorem next?_parenthesis (cs : List Char) :
    Lexeme.next? ('(' :: cs) = some (.operator, 1) := by
  have hends : EndsWord ('(' :: cs) := endsWord_cons (by decide) cs
  have hmark : markLength? ('(' :: cs) = none :=
    Lexeme.markLength?_eq_none (List.forall_mem_nil _) hends
  have hnumber : numberLength ('(' :: cs) = 0 :=
    (numberLength_eq_zero_iff '(' cs).2 ⟨rfl, Or.inl (by decide)⟩
  rw [Lexeme.next?, Lexeme.tripleAt, hmark, hnumber]
  rfl

namespace Scanned
variable {line column : Nat} {st final : LexState} {behind : List Char} {later : List Token}

/-- A sign behind blanks is a token. -/
theorem sign {blanks : List Char} {c : Char} (hblanks : ∀ b ∈ blanks, isGap b = true)
    (hgap : isGap c = false) (hnext : Lexeme.next? (c :: behind) = some (.operator, 1))
    (hlater : Scanned line (st.afterOperator (String.ofList [c])) (column + blanks.length + 1)
      behind later final) :
    Scanned line st column (blanks ++ c :: behind)
      (signAt c line (column + blanks.length) :: later) final :=
  @takes line column st _ final blanks [] behind c later .operator .operator hblanks hgap hnext rfl
    hlater

/-- The end of a line outside of brackets is a token. -/
theorem lineBreak (hst : st.brackets = 0) :
    Scanned line st column ['\n'] [endAt line column] st := by
  have hstep : lexemeStep st line (column + 0) .lineEnd ['\n'] [] =
      (some (endAt line column), st, []) := by
    rw [lexemeStep, hst]
    rfl
  exact @takes line column st st st [] [] [] '\n' [] .lineEnd .newline
    (List.forall_mem_nil _) (by decide) rfl hstep (.blank (List.forall_mem_nil _))

/-- A name stands anywhere in front of what ends a word. -/
theorem name {name : List Char} (hname : IsNameText name) (hbehind : EndsWord behind)
    (hlater : Scanned line st (column + name.length) behind later final) :
    Scanned line st column (name ++ behind)
      ((nameTokens name).map (·.movedTo line column) ++ later) final :=
  (readsAs_nameTokens hname.part).scanned hbehind hlater

/-- A blank in front of a name adds at most a token that is no name. -/
theorem exists_blank_name {name : List Char} (hname : IsNameText name) (hbehind : EndsWord behind)
    (hlater : Scanned line st (column + 1 + name.length) behind later final) :
    ∃ lead : List Token, (∀ t ∈ lead, t = ⟨.stray, [' '], line, column⟩) ∧
      Scanned line st column (' ' :: name ++ behind)
        (lead ++ (nameTokens name).map (·.movedTo line (column + 1)) ++ later) final := by
  obtain ⟨c, cs, rfl⟩ := List.exists_cons_of_ne_nil hname.nonempty
  have hgap := isGap_of_isIdentifierPart (hname.part c List.mem_cons_self)
  obtain ⟨lead, hlead, h⟩ := exists_behind_blank hgap (Scanned.name hname hbehind hlater)
  rw [← List.append_assoc] at h
  exact ⟨lead, hlead, h⟩

end Scanned

theorem exists_scanned_link {x a : List Char} (hx : IsNameText x) (ha : IsNameText a) (line : Nat) :
    ∃ (lead : List Token) (equals opener closer ending : Nat),
      (∀ t ∈ lead, t = ⟨.stray, [' '], line, x.length + 2⟩) ∧
      Scanned line .start 0 (linkLine x a ++ ['\n'])
        (linkTokens line ((nameTokens x).map (·.movedTo line 0))
          (lead ++ (nameTokens a).map (·.movedTo line (x.length + 3)))
          ((nameTokens x).map (·.movedTo line (x.length + 3 + a.length + 1))) equals opener closer
          ending) .start := by
  have hno : ∀ b ∈ ([] : List Char), isGap b = true := List.forall_mem_nil _
  have hspace : ∀ b ∈ [' '], isGap b = true := List.forall_mem_singleton.2 rfl
  let opener := x.length + 3 + a.length
  let closer := opener + 1 + x.length
  -- from behind: the bracket is closed, and the state is that at the start again
  have hcloser : Scanned line (LexState.start.afterOperator "(") closer (')' :: ['\n'])
      [signAt ')' line closer, endAt line (closer + 1)] .start :=
    .sign hno rfl rfl (.lineBreak rfl)
  have hparameter := Scanned.name hx (endsWord_cons (by decide) ['\n']) hcloser
  have hopener := Scanned.sign hno rfl (next?_parenthesis _) hparameter
  obtain ⟨lead, hlead, hlayer⟩ :=
    Scanned.exists_blank_name ha (endsWord_cons (by decide) _) hopener
  have hequals : Scanned line .start (0 + x.length)
      ([' '] ++ '=' :: (' ' :: a ++ '(' :: (x ++ [')', '\n']))) _ .start :=
    .sign hspace rfl rfl (by rw [Nat.zero_add]; exact hlayer)
  have hall := Scanned.name hx (endsWord_cons (by decide) _) hequals
  have htext : linkLine x a ++ ['\n'] =
      x ++ ([' '] ++ '=' :: (' ' :: a ++ '(' :: (x ++ [')', '\n']))) := by
    simp [linkLine]
  refine ⟨lead, 0 + x.length + 1, opener, closer, closer + 1, hlead, ?_⟩
  rw [htext]
  exact hall

theorem exists_scanned_last {x : List Char} (hx : IsNameText x) (line : Nat) :
    ∃ (lead : List Token) (ending : Nat), (∀ t ∈ lead, t = ⟨.stray, [' '], line, 6⟩) ∧
      Scanned line .start 0 (lastLine x ++ ['\n'])
        ((nameTokens "return".toList).map (·.movedTo line 0) ++
          (lead ++ (nameTokens x).map (·.movedTo line 7) ++ [endAt line ending])) .start := by
  have hends : EndsWord ['\n'] := endsWord_cons (by decide) []
  obtain ⟨lead, hlead, hvalue⟩ := Scanned.exists_blank_name hx hends
    (@Scanned.lineBreak line (6 + 1 + x.length) .start rfl)
  have hall := Scanned.name isNameText_return (endsWord_cons (by decide) _) hvalue
  exact ⟨lead, 6 + 1 + x.length, hlead, hall⟩

/-- A statement that begins at the first column with a name is read as it is scanned. -/
theorem lexLine_of_scanned {name rest : List Char} (hname : IsNameText name) {tokens : List Token}
    {line : Nat} {next : LexState} (h : Scanned line .start 0 (name ++ rest) tokens next) :
    lexLine .start line (name ++ rest) = .ok (tokens, next) := by
  obtain ⟨c, cs, rfl⟩ := List.exists_cons_of_ne_nil hname.nonempty
  have hc := hname.part c List.mem_cons_self
  have hgap := isGap_of_isIdentifierPart hc
  have hblanks : (c :: cs ++ rest).takeWhile isGap = [] :=
    List.takeWhile_cons_of_neg (by simp [hgap])
  have hrest : (c :: cs ++ rest).dropWhile isGap = c :: cs ++ rest :=
    List.dropWhile_cons_of_neg (by simp [hgap])
  have hsolid : isEmptyLine ((c :: cs ++ rest).dropWhile isGap) = false := by
    rw [hrest, List.cons_append, isEmptyLine,
      beq_false_of_ne (ne_of_isIdentifierPart hc (by decide)),
      beq_false_of_ne (ne_of_isIdentifierPart hc (by decide)),
      beq_false_of_ne (ne_of_isIdentifierPart hc (by decide))]
    rfl
  have hindent : indentStep .start line ((c :: cs ++ rest).takeWhile isGap) = .ok ([], .start) := by
    rw [hblanks]
    rfl
  rw [lexLine_of_none rfl, if_pos ⟨rfl, rfl⟩, statementLine_of_indentStep hsolid hindent,
    hrest, hblanks, List.nil_append, List.length_nil, h.scan_eq (Nat.le_refl _)]

/-! ### The chain -/

/-- The lines of a chain: one for each layer, and a last one. -/
def chainLines (x : List Char) (names : List (List Char)) : List (List Char) :=
  names.map (linkLine x) ++ [lastLine x]

theorem chainLines_ne_nil (x : List Char) (names : List (List Char)) : chainLines x names ≠ [] :=
  List.concat_ne_nil _ _

/-- The names of layers that the tokens of a name are. -/
def layersIn (attributes : List String) (name : List Char) : List Token :=
  (nameTokens name).filter (·.isLayer attributes)

/-- The names of layers in a chain whose parameter has none. -/
def chainLayers (attributes : List String) (x : List Char) : Nat → List (List Char) → List Token
  | _, [] => []
  | line, a :: names =>
    (layersIn attributes a).map (·.movedTo line (x.length + 3)) ++
      chainLayers attributes x (line + 1) names

section chain
variable {attributes : List String} (hself : "self" ∉ attributes) {x : List Char}
  (hx : IsNameText x)

theorem filter_isLayer_movedTo (name : List Char) (line column : Nat) :
    ((nameTokens name).map (·.movedTo line column)).filter (·.isLayer attributes) =
      (layersIn attributes name).map (·.movedTo line column) := by
  rw [List.filter_map]
  rfl

theorem isInert_movedTo {name : List Char} (hname : IsNameText name) (line column : Nat) :
    ∀ t ∈ (nameTokens name).map (·.movedTo line column), t.IsInert :=
  List.forall_mem_map.2 fun t ht => ((readsAs_nameTokens hname.part).inert t ht).movedTo ..

/-- A blank that is a token is inert, and is no name. -/
theorem of_blank {lead : List Token} {line column : Nat}
    (h : ∀ t ∈ lead, t = ⟨.stray, [' '], line, column⟩) :
    (∀ t ∈ lead, t.IsInert) ∧ lead.filter (·.isLayer attributes) = [] := by
  constructor
  · intro t ht
    have hblank : String.ofList [' '] ∉ operators := by decide
    rw [h t ht]
    exact ⟨nofun, rfl, hblank⟩
  · refine List.filter_eq_nil_iff.2 fun t ht => ?_
    rw [h t ht]
    exact nofun

include hself hx

/-- The last statement of a chain refers to no layer, unless the parameter does. -/
theorem exists_tokens_last (hreturn : "return" ∉ attributes) (line : Nat) :
    ∃ ts, lexLines .start line [lastLine x] = .ok ts ∧ ∀ before?, BeforeIsNoPoint before? →
      layersIn attributes x = [] → references attributes .start (places before? ts) = .ok [] := by
  obtain ⟨lead, ending, hlead, hscan⟩ := exists_scanned_last hx line
  obtain ⟨hblank, hblanks⟩ := @of_blank attributes _ _ _ hlead
  have hfinish : lexLines .start (line + 1) [] = .ok [⟨.endMarker, [], line + 1, 0⟩] := rfl
  refine ⟨_, lexLines_cons (lexLine_of_scanned isNameText_return hscan) hfinish,
    fun before? hbefore hnone => ?_⟩
  let value := lead ++ (nameTokens x).map (·.movedTo line 7)
  have hinert : ∀ t ∈ (nameTokens "return".toList).map (·.movedTo line 0) ++ value, t.IsInert :=
    List.forall_mem_append.2 ⟨isInert_movedTo isNameText_return line 0,
      List.forall_mem_append.2 ⟨hblank, isInert_movedTo hx line 7⟩⟩
  have hsplit : (nameTokens "return".toList).map (·.movedTo line 0) ++
      (lead ++ (nameTokens x).map (·.movedTo line 7) ++ [endAt line ending]) ++
        [⟨.endMarker, [], line + 1, 0⟩] =
      ((nameTokens "return".toList).map (·.movedTo line 0) ++ value) ++
        [endAt line ending, ⟨.endMarker, [], line + 1, 0⟩] := by
    simp [value]
  have hword : layersIn attributes "return".toList = [] := by
    have htokens : nameTokens "return".toList = [⟨.name, "return".toList, 0, 0⟩] := rfl
    rw [layersIn, htokens, List.filter_eq_nil_iff]
    refine List.forall_mem_singleton.2 fun hlayer => hreturn ?_
    simpa [Token.isLayer, Token.string] using hlayer
  rw [hsplit, references_last hself hinert hbefore, List.filter_append, List.filter_append,
    filter_isLayer_movedTo, filter_isLayer_movedTo, hblanks, hnone, hword]
  rfl

/-- The statements of a chain refer to the layers that the names of the layers hold, if the
    parameter holds none; else the first statement rebinds one. -/
theorem exists_tokens_chain (hreturn : "return" ∉ attributes) {names : List (List Char)}
    (hnames : ∀ a ∈ names, IsNameText a) (line : Nat) :
    ∃ ts, lexLines .start line (chainLines x names) = .ok ts ∧ ∀ before?, BeforeIsNoPoint before? →
      (layersIn attributes x = [] →
        references attributes .start (places before? ts) =
          .ok (chainLayers attributes x line names)) ∧
      (layersIn attributes x ≠ [] → names ≠ [] →
        ∃ reason, references attributes .start (places before? ts) = .error reason) := by
  induction names generalizing line with
  | nil =>
    obtain ⟨ts, hts, hwalk⟩ := exists_tokens_last hself hx hreturn line
    exact ⟨ts, hts, fun before? hbefore => ⟨hwalk before? hbefore, fun _ hne => absurd rfl hne⟩⟩
  | cons a names ih =>
    obtain ⟨ha, hmore⟩ := List.forall_mem_cons.1 hnames
    obtain ⟨ts, hts, hlater⟩ := ih hmore (line + 1)
    obtain ⟨lead, equals, opener, closer, ending, hlead, hscan⟩ := exists_scanned_link hx ha line
    obtain ⟨hblank, hblanks⟩ := @of_blank attributes _ _ _ hlead
    have hlayer : ∀ t ∈ lead ++ (nameTokens a).map (·.movedTo line (x.length + 3)), t.IsInert :=
      List.forall_mem_append.2 ⟨hblank, isInert_movedTo ha line _⟩
    rw [linkLine, List.append_assoc] at hscan
    have hline := lexLine_of_scanned hx hscan
    rw [← List.append_assoc] at hline
    refine ⟨_, lexLines_cons hline hts, fun before? hbefore => ?_⟩
    -- the step for one link; the rest of the walk starts behind its line end
    have hlink := references_link hself (isInert_movedTo hx line 0) hlayer
      (isInert_movedTo hx line (x.length + 3 + a.length + 1)) hbefore line equals opener closer
      ending ts
    simp only [List.filter_append, filter_isLayer_movedTo, hblanks, List.nil_append] at hlink
    constructor
    · intro hnone
      have hend : BeforeIsNoPoint (some (endAt line ending)) := by
        rintro _ ⟨⟩
        rfl
      rw [hlink.1 (by rw [hnone]; rfl), (hlater _ hend).1 hnone, hnone, List.map_nil,
        List.append_nil]
      rfl
    · intro hsome _
      exact hlink.2 fun hempty => hsome (List.map_eq_nil_iff.1 hempty)

end chain

/-! ### Binding a chain -/

/-- Columns that are moved with the text change nothing. -/
theorem qualifyFrom_moved (columns : List Nat) (by_ start : Nat) (cs : List Char) :
    qualifyFrom (columns.map (by_ + ·)) (by_ + start) cs = qualifyFrom columns start cs := by
  induction cs generalizing start with
  | nil => rfl
  | cons c cs ih =>
    have hcontains : (columns.map (by_ + ·)).contains (by_ + start) = columns.contains start := by
      rw [Bool.eq_iff_iff]
      simp
    rw [qualifyFrom_cons, qualifyFrom_cons, hcontains, Nat.add_assoc, ih]

/-- A name with `self.` in front of the names of layers that it falls into. -/
def boundName (attributes : List String) (name : List Char) : List Char :=
  qualifyLine ((layersIn attributes name).map (·.column)) name

section binding
variable {attributes : List String} {x : List Char}

theorem column_lt_of_mem_layersIn {name : List Char} (hname : IsNameText name) {t : Token}
    (ht : t ∈ layersIn attributes name) : t.column < name.length :=
  (readsAs_nameTokens hname.part).within t (List.mem_filter.1 ht).1

/-- In a statement of a chain `self.` is put into the name of the layer. -/
theorem qualifyLine_link {a : List Char} (ha : IsNameText a) :
    qualifyLine ((layersIn attributes a).map (x.length + 3 + ·.column)) (linkLine x a) =
      linkLine x (boundName attributes a) := by
  let columns := (layersIn attributes a).map (x.length + 3 + ·.column)
  have hcolumns : columns = ((layersIn attributes a).map (·.column)).map (x.length + 3 + ·) :=
    (List.map_map ..).symm
  have hplace : ∀ k ∈ columns, x.length + 3 ≤ k ∧ k < x.length + 3 + a.length := by
    refine List.forall_mem_map.2 fun t ht => ⟨Nat.le_add_right _ _, ?_⟩
    exact Nat.add_lt_add_left (column_lt_of_mem_layersIn ha ht) _
  have hform (a : List Char) :
      linkLine x a = (x ++ " = ".toList) ++ (a ++ ('(' :: (x ++ [')']))) := by
    simp [linkLine]
  have hlength : (x ++ " = ".toList).length = x.length + 3 := by simp
  have hfront : qualifyFrom columns 0 (x ++ " = ".toList) = x ++ " = ".toList :=
    qualifyFrom_of_not_mem fun k hk _ hlt => by
      have hin := hplace k hk
      omega
  have hbehind : qualifyFrom columns (x.length + 3 + a.length) ('(' :: (x ++ [')'])) =
      '(' :: (x ++ [')']) :=
    qualifyFrom_of_not_mem fun k hk hle _ => by
      have hin := hplace k hk
      omega
  have hname : qualifyFrom columns (x.length + 3) a = boundName attributes a := by
    rw [hcolumns]
    exact qualifyFrom_moved _ _ 0 a
  rw [qualifyLine_eq, hform, hform, qualifyFrom_append _ _ (x ++ " = ".toList), hlength,
    Nat.zero_add, qualifyFrom_append _ _ a, hfront, hname, hbehind]

theorem columnsOn_append (ts us : List Token) (line : Nat) :
    columnsOn (ts ++ us) line = columnsOn ts line ++ columnsOn us line := by
  rw [columnsOn, List.filter_append, List.map_append]
  rfl

theorem columnsOn_eq_nil {ts : List Token} {line : Nat} (h : ∀ t ∈ ts, t.line ≠ line) :
    columnsOn ts line = [] := by
  rw [columnsOn, List.filter_eq_nil_iff.2 fun t ht => by simpa using h t ht]
  rfl

theorem columnsOn_movedTo (ts : List Token) (line column : Nat) :
    columnsOn (ts.map (·.movedTo line column)) line = ts.map (column + ·.column) := by
  have hall : (ts.map (·.movedTo line column)).filter (·.line == line) =
      ts.map (·.movedTo line column) :=
    List.filter_eq_self.2 (List.forall_mem_map.2 fun _ _ => beq_self_eq_true line)
  rw [columnsOn, hall, List.map_map]
  rfl

theorem line_of_mem_chainLayers {names : List (List Char)} {line : Nat} {t : Token}
    (ht : t ∈ chainLayers attributes x line names) : line ≤ t.line := by
  induction names generalizing line with
  | nil => exact absurd ht List.not_mem_nil
  | cons a names ih =>
    rcases List.mem_append.1 ht with ht | ht
    · obtain ⟨u, -, rfl⟩ := List.mem_map.1 ht
      exact Nat.le_refl _
    · exact Nat.le_of_succ_le (ih ht)

/-- In a chain `self.` is put into the names of the layers. -/
theorem qualify_chain {names : List (List Char)} (hnames : ∀ a ∈ names, IsNameText a) (k : Nat)
    {earlier : List Token} (hearlier : ∀ t ∈ earlier, t.line ≤ k) :
    ((chainLines x names).zipIdx k).map (fun (line, index) =>
        qualifyLine (columnsOn (earlier ++ chainLayers attributes x (k + 1) names) (index + 1))
          line) =
      chainLines x (names.map (boundName attributes)) := by
  induction names generalizing k earlier with
  | nil =>
    have hnone : columnsOn (earlier ++ chainLayers attributes x (k + 1) []) (k + 1) = [] :=
      columnsOn_eq_nil fun t ht => by
        have hle := hearlier t (by simpa [chainLayers] using ht)
        omega
    have hline : qualifyLine [] (lastLine x) = lastLine x :=
      qualifyFrom_of_not_mem fun k hk => absurd hk List.not_mem_nil
    exact congrArg (fun line => [line]) ((congrArg (qualifyLine · (lastLine x)) hnone).trans hline)
  | cons a names ih =>
    obtain ⟨ha, hmore⟩ := List.forall_mem_cons.1 hnames
    let here := (layersIn attributes a).map (·.movedTo (k + 1) (x.length + 3))
    have hhere : ∀ t ∈ here, t.line = k + 1 := List.forall_mem_map.2 fun _ _ => rfl
    have hcolumns : columnsOn (earlier ++ chainLayers attributes x (k + 1) (a :: names)) (k + 1) =
        (layersIn attributes a).map (x.length + 3 + ·.column) := by
      have hbefore : columnsOn earlier (k + 1) = [] := columnsOn_eq_nil fun t ht => by
        have hle := hearlier t ht
        omega
      have hbehind : columnsOn (chainLayers attributes x (k + 1 + 1) names) (k + 1) = [] :=
        columnsOn_eq_nil fun t ht => by
          have hle := line_of_mem_chainLayers ht
          omega
      rw [chainLayers, columnsOn_append, columnsOn_append, hbefore, hbehind, List.nil_append,
        List.append_nil, columnsOn_movedTo]
    -- for the lines below, the tokens of this line are earlier ones
    have hmoved : ∀ t ∈ earlier ++ here, t.line ≤ k + 1 :=
      List.forall_mem_append.2 ⟨fun t ht => Nat.le_succ_of_le (hearlier t ht),
        fun t ht => Nat.le_of_eq (hhere t ht)⟩
    have hrest := ih hmore (k + 1) hmoved
    have hlayers : earlier ++ here ++ chainLayers attributes x (k + 1 + 1) names =
        earlier ++ chainLayers attributes x (k + 1) (a :: names) := List.append_assoc ..
    rw [hlayers] at hrest
    show qualifyLine _ _ :: _ = _
    rw [hcolumns, qualifyLine_link ha]
    exact congrArg (linkLine x (boundName attributes a) :: ·) hrest

theorem length_qualifyFrom_cons (columns : List Nat) (start : Nat) (c : Char) (cs : List Char) :
    (qualifyFrom columns start (c :: cs)).length =
      (if columns.contains start then 6 else 1) + (qualifyFrom columns (start + 1) cs).length := by
  rw [qualifyFrom_cons, List.length_append]
  split <;> rfl

theorem length_le_qualifyFrom (columns : List Nat) (start : Nat) (cs : List Char) :
    cs.length ≤ (qualifyFrom columns start cs).length := by
  induction cs generalizing start with
  | nil => exact Nat.zero_le _
  | cons c cs ih =>
    have hrest := ih (start + 1)
    rw [length_qualifyFrom_cons, List.length_cons]
    split <;> omega

/-- Where a column is in a text, the text becomes longer. -/
theorem length_lt_qualifyFrom {columns : List Nat} {k : Nat} (hk : k ∈ columns) {start : Nat}
    {cs : List Char} (hle : start ≤ k) (hlt : k < start + cs.length) :
    cs.length < (qualifyFrom columns start cs).length := by
  induction cs generalizing start with
  | nil =>
    rw [List.length_nil] at hlt
    omega
  | cons c cs ih =>
    rw [List.length_cons] at hlt ⊢
    rw [length_qualifyFrom_cons]
    by_cases hhere : start = k
    · have hrest := length_le_qualifyFrom columns (start + 1) cs
      rw [hhere, if_pos (List.contains_iff_mem.2 hk), ← hhere]
      omega
    · have hrest := @ih (start + 1) (by omega) (by omega)
      split <;> omega

/-- A name stays as it is exactly if it holds no layer. -/
theorem boundName_eq_self_iff {name : List Char} (hname : IsNameText name) :
    boundName attributes name = name ↔ layersIn attributes name = [] := by
  constructor
  · intro hsame
    cases hlayers : layersIn attributes name with
    | nil => rfl
    | cons t ts =>
      have ht : t ∈ layersIn attributes name := hlayers ▸ List.mem_cons_self
      have hlonger := @length_lt_qualifyFrom _ t.column (List.mem_map_of_mem ht) 0 name
        (Nat.zero_le _) (by rw [Nat.zero_add]; exact column_lt_of_mem_layersIn hname ht)
      rw [← qualifyLine_eq] at hlonger
      exact absurd hlonger (by rw [← boundName, hsame]; exact Nat.lt_irrefl _)
  · intro hnone
    rw [boundName, hnone]
    exact qualifyFrom_of_not_mem fun k hk => absurd hk List.not_mem_nil

/-! ### The lines of a text -/

theorem not_mem_of_part {name : List Char} (hname : IsNameText name) {c : Char}
    (hc : Text.isIdentifierPart c = false) : c ∉ name := fun hmem =>
  absurd ((hname.part c hmem).symm.trans hc) nofun

/-- Whether a text is a line that ends in no blank. -/
structure IsSolid (line : List Char) : Prop where
  noBreak : '\n' ∉ line
  ending : ∃ c, line.getLast? = some c ∧ Text.isBlank c = false

theorem IsSolid.append {xs ys : List Char} (hxs : '\n' ∉ xs) (h : IsSolid ys) :
    IsSolid (xs ++ ys) := by
  obtain ⟨hys, c, hlast, hblank⟩ := h
  refine ⟨fun hmem => (List.mem_append.1 hmem).elim hxs hys, c, ?_, hblank⟩
  rw [List.getLast?_append, hlast]
  rfl

theorem IsNameText.isSolid {name : List Char} (hname : IsNameText name) : IsSolid name := by
  refine ⟨not_mem_of_part hname (by decide), name.getLast hname.nonempty,
    List.getLast?_eq_some_getLast hname.nonempty, ?_⟩
  exact Text.isBlank_of_isIdentifierPart (hname.part _ (List.getLast_mem hname.nonempty))

theorem isSolid_chain (hx : IsNameText x) {names : List (List Char)}
    (hnames : ∀ a ∈ names, '\n' ∉ a) : ∀ line ∈ chainLines x names, IsSolid line := by
  have hbreak := hx.isSolid.noBreak
  refine List.forall_mem_append.2 ⟨List.forall_mem_map.2 fun a ha => ?_,
    List.forall_mem_singleton.2 (hx.isSolid.append (by decide))⟩
  have hparenthesis : IsSolid [')'] := ⟨by decide, ')', rfl, by decide⟩
  have hform : linkLine x a = (x ++ " = ".toList ++ a ++ ('(' :: x)) ++ [')'] := by simp [linkLine]
  rw [hform]
  exact hparenthesis.append (by simp [hbreak, hnames a ha])

theorem IsSolid.isBlankText_eq_false {line : List Char} (h : IsSolid line) :
    Text.isBlankText line = false := by
  obtain ⟨-, c, hlast, hblank⟩ := h
  refine Bool.eq_false_iff.2 fun hall => ?_
  have hc := List.all_eq_true.1 hall c (List.mem_of_getLast? hlast)
  exact absurd (hc.symm.trans hblank) nofun

section solid
variable {ls : List (List Char)} (hne : ls ≠ []) (hls : ∀ line ∈ ls, IsSolid line)
include hne hls

theorem lines_of_isSolid : Text.lines (Text.unlines ls) = ls :=
  Text.lines_unlines hne fun line hline => (hls line hline).noBreak

theorem isBlankText_of_isSolid : Text.isBlankText (Text.unlines ls) = false := by
  obtain ⟨line, rest, rfl⟩ := List.exists_cons_of_ne_nil hne
  rw [Text.isBlankText_unlines, List.all_cons,
    (hls line List.mem_cons_self).isBlankText_eq_false, Bool.false_and]

/-- Lines that end in no blanks have no line breaks around them. -/
theorem trimBreaks_of_isSolid : Text.trimBreaks (Text.unlines ls) = Text.unlines ls := by
  refine Fragment.trimBreaks_of_not_mem ?_
  rw [lines_of_isSolid hne hls]
  intro hmem
  obtain ⟨c, hlast, -⟩ := (hls [] hmem).ending
  exact absurd hlast nofun

/-- Lines that end in no blanks are the lines of their text. -/
theorem normalLines_of_isSolid : normalLines (String.ofList (Text.unlines ls)) = ls := by
  rw [normalLines, String.toList_ofList, trimBreaks_of_isSolid hne hls, lines_of_isSolid hne hls]
  refine (List.map_congr_left fun line hline => ?_).trans (List.map_id ls)
  obtain ⟨c, hlast, hblank⟩ := (hls line hline).ending
  refine Text.dropEndWhile_of_getLast? fun d hd => ?_
  rw [hlast] at hd
  exact Option.some.inj hd ▸ hblank

end solid

/-! ### What is bound -/

/-- What is bound in lines is what the walk over their tokens finds. -/
theorem bind_of_tokens {ls : List (List Char)} {ts : List Token} (hne : ls ≠ [])
    (hls : ∀ line ∈ ls, IsSolid line) (hts : tokens ls = .ok ts) :
    bind attributes (String.ofList (Text.unlines ls)) =
      (references attributes .start (places none ts)).map fun names =>
        String.ofList (Text.unlines (qualify names ls)) := by
  have hread : (tokens ls).mapError Reason.unreadable = .ok ts := Result.mapError_eq_ok.2 hts
  unfold bind
  simp only [normalLines_of_isSolid hne hls, hread, bind_pure_comp]
  rfl

variable (hself : "self" ∉ attributes)
include hself

/-- A name that stands alone is bound wherever it falls into the name of a layer. -/
theorem bind_name {name : List Char} (hname : IsNameText name) :
    bind attributes (String.ofList name) = .ok (String.ofList (boundName attributes name)) := by
  have hline : lexLine .start 1 (name ++ ['\n']) = _ := lexLine_of_scanned hname
    (Scanned.name hname (endsWord_cons (by decide) []) (Scanned.lineBreak rfl))
  have htokens : tokens [name] = .ok ((nameTokens name).map (·.movedTo 1 0) ++
      [endAt 1 (0 + name.length), ⟨.endMarker, [], 1 + 1, 0⟩]) :=
    (lexLines_cons hline rfl).trans (congrArg Except.ok (List.append_assoc ..))
  have hwalk := @references_last attributes hself _ (isInert_movedTo hname 1 0) none nofun 1
    (0 + name.length)
  rw [filter_isLayer_movedTo] at hwalk
  have hbind := @bind_of_tokens attributes _ _ (List.cons_ne_nil name [])
    (List.forall_mem_singleton.2 hname.isSolid) htokens
  rw [hwalk] at hbind
  have hcolumns : columnsOn ((layersIn attributes name).map (·.movedTo 1 0)) 1 =
      (layersIn attributes name).map (·.column) := by
    simp only [columnsOn_movedTo, Nat.zero_add]
  have hqualify : qualify ((layersIn attributes name).map (·.movedTo 1 0)) [name] =
      [boundName attributes name] := by
    show [qualifyLine (columnsOn _ 1) name] = _
    rw [hcolumns]
    rfl
  exact hbind.trans (congrArg (fun ls => Except.ok (String.ofList (Text.unlines ls))) hqualify)

/-- A name that is a word is bound to its layer if it is the name of one, and else to nothing. -/
theorem bind_word {name : String} (hname : Text.isName name = true)
    (hword : ∀ c ∈ name.toList, Text.isWord c = true) :
    bind attributes name = .ok (if name ∈ attributes then "self." ++ name else name) := by
  obtain ⟨first, rest, hcs, hfirst, hrest⟩ := Text.exists_of_isName hname
  have htokens : nameTokens name.toList = [⟨.name, name.toList, 0, 0⟩] := by
    rw [hcs] at hword ⊢
    exact nameTokens_of_isWord hword hfirst hrest
  have hlayer : Token.isLayer attributes ⟨.name, name.toList, 0, 0⟩ =
      decide (name ∈ attributes) := by
    simp [Token.isLayer, Token.string, String.ofList_toList]
  have hbind := bind_name hself (isNameText_of_isName hname)
  rw [String.ofList_toList] at hbind
  rw [hbind, boundName, layersIn, htokens, List.filter_cons, hlayer, List.filter_nil]
  refine congrArg Except.ok (String.toList_inj.1 ?_)
  rw [String.toList_ofList]
  by_cases hmem : name ∈ attributes
  · rw [if_pos hmem, decide_eq_true hmem, if_pos rfl, String.toList_append, hcs]
    have hfrom : qualifyFrom [0] 1 rest = rest :=
      qualifyFrom_of_not_mem fun k hk hle _ => by
        obtain rfl := List.mem_singleton.1 hk
        omega
    show qualifyFrom [0] 0 (first :: rest) = _
    rw [qualifyFrom_cons, hfrom]
    rfl
  · rw [if_neg hmem, decide_eq_false hmem, if_neg Bool.false_ne_true]
    exact qualifyFrom_of_not_mem fun k hk => absurd hk List.not_mem_nil

/-- A name that is no word stays as it is, unless it holds the name of another layer. -/
theorem bind_of_not_isWord {name : String} (hname : Text.isName name = true) {c : Char}
    (hc : c ∈ name.toList) (hstrange : Text.isWord c = false)
    (hothers : ∀ other ∈ attributes, other ≠ name → ¬other.toList <:+: name.toList) :
    bind attributes name = .ok name := by
  have htext := isNameText_of_isName hname
  have hnone : layersIn attributes name.toList = [] := by
    refine List.filter_eq_nil_iff.2 fun t ht hlayer => ?_
    rw [Token.isLayer, Bool.and_eq_true, beq_iff_eq, List.contains_iff_mem] at hlayer
    obtain ⟨hkind, hmem⟩ := hlayer
    obtain ⟨hword, hinfix⟩ := (readsAs_nameTokens htext.part).word t ht hkind
    have hstring : t.string.toList = t.text := String.toList_ofList
    refine hothers t.string hmem (fun hsame => ?_) (by rwa [hstring])
    -- all characters of the token are those of a word
    rw [← hsame, hstring] at hc
    cases (hword c hc).symm.trans hstrange
  have hbind := bind_name hself htext
  rwa [(boundName_eq_self_iff htext).2 hnone, String.ofList_toList] at hbind

section chain
variable (hreturn : "return" ∉ attributes) (hx : IsNameText x) {names : List (List Char)}
  (hnames : ∀ a ∈ names, IsNameText a)
include hreturn hx hnames

/-- A chain is bound name by name, if its parameter holds no layer. -/
theorem bind_chain (hnone : layersIn attributes x = []) :
    bind attributes (String.ofList (Text.unlines (chainLines x names))) =
      .ok (String.ofList (Text.unlines (chainLines x (names.map (boundName attributes))))) := by
  obtain ⟨ts, hts, hwalk⟩ := exists_tokens_chain hself hx hreturn hnames 1
  have hqualify := @qualify_chain attributes x names hnames 0 [] nofun
  rw [bind_of_tokens (chainLines_ne_nil _ _)
    (isSolid_chain hx fun a ha => (hnames a ha).isSolid.noBreak) hts, (hwalk none nofun).1 hnone]
  exact congrArg (fun ls => Except.ok (String.ofList (Text.unlines ls))) hqualify

/-- If its parameter holds a layer, a chain of layers is refused. -/
theorem exists_bind_chain_error (hsome : layersIn attributes x ≠ []) (hne : names ≠ []) :
    ∃ reason, bind attributes (String.ofList (Text.unlines (chainLines x names))) =
      .error reason := by
  obtain ⟨ts, hts, hwalk⟩ := exists_tokens_chain hself hx hreturn hnames 1
  obtain ⟨reason, herror⟩ := (hwalk none nofun).2 hsome hne
  rw [bind_of_tokens (chainLines_ne_nil _ _)
    (isSolid_chain hx fun a ha => (hnames a ha).isSolid.noBreak) hts, herror]
  exact ⟨reason, rfl⟩

/-- What a chain is bound to is a chain again. -/
theorem exists_of_bind_chain (hempty : names = [] → layersIn attributes x = []) {flow : String}
    (h : bind attributes (String.ofList (Text.unlines (chainLines x names))) = .ok flow) :
    ∃ bound, flow = String.ofList (Text.unlines (chainLines x bound)) ∧ ∀ a ∈ bound, '\n' ∉ a := by
  by_cases hnone : layersIn attributes x = []
  · rw [bind_chain hself hreturn hx hnames hnone] at h
    refine ⟨_, (Except.ok.inj h).symm, List.forall_mem_map.2 fun a ha => ?_⟩
    exact not_mem_qualifyLine _ (by decide) (hnames a ha).isSolid.noBreak
  · obtain ⟨reason, herror⟩ :=
      exists_bind_chain_error hself hreturn hx hnames hnone fun hno => hnone (hempty hno)
    exact absurd (herror.symm.trans h) nofun

/-- A chain is bound to the layers themselves exactly if each name in it is so bound where it stands
    alone: those of layers to the layers, and the parameter to nothing. -/
theorem bind_chain_iff (hempty : names = [] → layersIn attributes x = []) :
    bind attributes (String.ofList (Text.unlines (chainLines x names))) =
        .ok (String.ofList (Text.unlines (chainLines x (names.map ("self.".toList ++ ·))))) ↔
      bind attributes (String.ofList x) = .ok (String.ofList x) ∧
        ∀ a ∈ names, bind attributes (String.ofList a) =
          .ok (String.ofList ("self.".toList ++ a)) := by
  have hown {a : List Char} (ha : IsNameText a) (b : List Char) :
      bind attributes (String.ofList a) = .ok (String.ofList b) ↔ boundName attributes a = b := by
    rw [bind_name hself ha, Except.ok.injEq, String.ofList_inj]
  have hnames' : (∀ a ∈ names, bind attributes (String.ofList a) =
      .ok (String.ofList ("self.".toList ++ a))) ↔
        ∀ a ∈ names, boundName attributes a = "self.".toList ++ a :=
    forall₂_congr fun a ha => hown (hnames a ha) _
  rw [hown hx, hnames', boundName_eq_self_iff hx]
  by_cases hnone : layersIn attributes x = []
  · rw [bind_chain hself hreturn hx hnames hnone, and_iff_right hnone, Except.ok.injEq,
      String.ofList_inj]
    have hbreak (f : List Char → List Char) (hf : ∀ a ∈ names, '\n' ∉ f a) :
        Text.lines (Text.unlines (chainLines x (names.map f))) = chainLines x (names.map f) :=
      lines_of_isSolid (chainLines_ne_nil _ _) (isSolid_chain hx (List.forall_mem_map.2 hf))
    have hbound : ∀ a ∈ names, '\n' ∉ boundName attributes a := fun a ha =>
      not_mem_qualifyLine _ (by decide) (hnames a ha).isSolid.noBreak
    have hlayer : ∀ a ∈ names, '\n' ∉ "self.".toList ++ a := fun a ha hmem =>
      (List.mem_append.1 hmem).elim (by decide) (hnames a ha).isSolid.noBreak
    have hlink {a b : List Char} (h : linkLine x a = linkLine x b) : a = b := by
      simpa [linkLine] using h
    -- no bound name holds a break, so the two texts are equal line by line
    constructor
    · intro hsame a ha
      have hlines := congrArg Text.lines hsame
      rw [hbreak _ hbound, hbreak _ hlayer, chainLines, chainLines] at hlines
      have hall := List.append_cancel_right hlines
      rw [List.map_map, List.map_map] at hall
      exact hlink (List.map_inj_left.1 hall a ha)
    · intro hall
      rw [List.map_congr_left hall]
  · refine iff_of_false (fun hbind => ?_) fun h => hnone h.1
    obtain ⟨reason, herror⟩ :=
      exists_bind_chain_error hself hreturn hx hnames hnone fun hno => hnone (hempty hno)
    exact absurd (herror.symm.trans hbind) nofun

end chain

end binding

end LayerGraph.Flow
