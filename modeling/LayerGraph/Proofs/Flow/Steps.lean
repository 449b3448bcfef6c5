import LayerGraph.Flow.Lexer
import LayerGraph.Proofs.Flow.Lexemes

/-! # What a lexeme does

    A lexeme gives a token at its place, if it gives one, and leaves the end of the text behind it
    to be read. The columns that the scanner has reached do not matter for this: in another place,
    with the same text to take, the same lexeme does the same (`lexemeStep_moved`).
-/

namespace LayerGraph.Flow

/-! ### Tokens -/

/-- What a token is and says, without its place. -/
def Token.content (t : Token) : TokenKind × List Char := (t.kind, t.text)

/-- The token of a lexeme stands where the lexeme begins, and only words are names. -/
theorem of_lexemeStep {st : LexState} {line column : Nat} {lexeme : Lexeme}
    {text rest : List Char} {t : Token}
    (h : (lexemeStep st line column lexeme text rest).1 = some t) :
    t.line = line ∧ t.column = column ∧
      (t.kind = .name → lexeme = .word ∧ t.text = text ∧ wordKind text = .name) := by
  -- for all lexemes with a token that is no name
  have hother {kind : TokenKind} (hkind : kind ≠ .name)
      (h : some ⟨kind, text, line, column⟩ = some t) :
      t.line = line ∧ t.column = column ∧
        (t.kind = .name → lexeme = .word ∧ t.text = text ∧ wordKind text = .name) := by
    obtain rfl := Option.some.inj h
    exact ⟨rfl, rfl, fun hname => absurd hname hkind⟩
  cases lexeme with
  | continuation => exact absurd h nofun
  | openString quote => exact absurd h nofun
  | comment => exact hother (by decide) h
  | number => exact hother (by decide) h
  | operator => exact hother (by decide) h
  | string => exact hother (by decide) h
  | lineEnd =>
    refine hother ?_ h
    split <;> decide
  | tripleQuote quote =>
    dsimp only [lexemeStep] at h
    split at h
    · obtain rfl := Option.some.inj h
      exact ⟨rfl, rfl, nofun⟩
    · exact absurd h nofun
  | word =>
    obtain rfl := Option.some.inj h
    exact ⟨rfl, rfl, fun hname => ⟨rfl, rfl, hname⟩⟩

/-- A word that can be a name begins with what can begin one. -/
theorem isNameStart_of_next? {c : Char} {cs : List Char} {n : Nat}
    (h : Lexeme.next? (c :: cs) = some (.word, n))
    (hname : wordKind ((c :: cs).take n) = .name) : isNameStart c = true := by
  have hpos : 0 < n := Lexeme.pos_of_next? _ h
  obtain ⟨m, rfl⟩ : ∃ m, n = m + 1 := ⟨n - 1, by omega⟩
  rw [List.take_succ_cons, wordKind] at hname
  split at hname
  · next hstart => rw [isNameStart, Lexeme.isWord_of_next? h, hstart]; rfl
  · exact absurd hname nofun

/-! ### States -/

/-- The state with another column for its open string. -/
def LexState.moved (st : LexState) (column : Nat) : LexState :=
  { st with open? := st.open?.map fun o => { o with column := column } }

theorem afterOperator_moved (st : LexState) (m : Nat) (op : String) :
    (st.moved m).afterOperator op = (st.afterOperator op).moved m := by
  unfold LexState.afterOperator
  repeat' split
  all_goals rfl

theorem moved_of_none {st : LexState} (h : st.open? = none) (m : Nat) : st.moved m = st := by
  rw [LexState.moved, h]
  cases st
  cases h
  rfl

/-! ### Other places -/

/-- What a lexeme does if only columns are different, and the text behind what it takes. -/
theorem lexemeStep_moved {st next : LexState} {line column : Nat} {lexeme : Lexeme}
    {text rest behind : List Char} {token? : Option Token}
    (hstep : lexemeStep st line column lexeme text rest = (token?, next, behind)) :
    ∃ more, rest = more ++ behind ∧
      ∀ (m column' : Nat) (behind' : List Char), (behind = [] → behind' = []) →
        ∃ token?' m', lexemeStep (st.moved m) line column' lexeme text (more ++ behind') =
            (token?', next.moved m', behind') ∧
          token?'.map Token.content = token?.map Token.content := by
  -- only strings that go on take more than the text of the lexeme
  cases lexeme with
  | continuation =>
    cases hstep
    exact ⟨[], rfl, fun m _ _ _ => ⟨_, m, rfl, rfl⟩⟩
  | comment =>
    cases hstep
    exact ⟨[], rfl, fun m _ _ _ => ⟨_, m, rfl, rfl⟩⟩
  | number =>
    cases hstep
    exact ⟨[], rfl, fun m _ _ _ => ⟨_, m, rfl, rfl⟩⟩
  | lineEnd =>
    cases hstep
    exact ⟨[], rfl, fun m _ _ _ => ⟨_, m, rfl, rfl⟩⟩
  | operator =>
    cases hstep
    refine ⟨[], rfl, fun m column' behind' _ => ⟨some ⟨.operator, text, line, column'⟩, m, ?_, rfl⟩⟩
    rw [← afterOperator_moved]
    rfl
  | string =>
    cases hstep
    exact ⟨[], rfl, fun m _ _ _ => ⟨_, m, rfl, rfl⟩⟩
  | word =>
    cases hstep
    exact ⟨[], rfl, fun m _ _ _ => ⟨_, m, rfl, rfl⟩⟩
  | openString quote =>
    cases hstep
    refine ⟨rest, (List.append_nil rest).symm, fun m column' behind' hnil => ?_⟩
    rw [hnil rfl, List.append_nil]
    exact ⟨none, column', rfl, rfl⟩
  | tripleQuote quote =>
    simp only [lexemeStep] at hstep ⊢
    cases hclose : closeLength quote true rest with
    | none =>
      rw [hclose] at hstep
      cases hstep
      refine ⟨rest, (List.append_nil rest).symm, fun m column' behind' hnil => ?_⟩
      rw [hnil rfl, List.append_nil, hclose]
      exact ⟨none, column', rfl, rfl⟩
    | some n =>
      rw [hclose] at hstep
      cases hstep
      refine ⟨rest.take n, (List.take_append_drop n rest).symm, fun m column' behind' hnil => ?_⟩
      rw [closeLength_of_replaced hclose]
      simp only [take_of_replaced hnil, drop_of_replaced hnil]
      exact ⟨_, m, rfl, rfl⟩

/-- What a lexeme leaves to be read is the end of the text behind it. -/
theorem exists_taken {st next : LexState} {line column : Nat} {lexeme : Lexeme}
    {text rest behind : List Char} {token? : Option Token}
    (hstep : lexemeStep st line column lexeme text rest = (token?, next, behind)) :
    ∃ taken, rest = taken ++ behind :=
  (lexemeStep_moved hstep).imp fun _ h => h.1

end LayerGraph.Flow
