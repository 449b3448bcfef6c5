import LayerGraph.Proofs.Flow.References

/-! # Rebinding

    Which data flows are refused, said of a token between the tokens in front of it and those behind
    it. A name is rebound if it stands for a layer itself and is a target (`Rebinds`). A layer is
    missing if `self.` stands in front of the name of a numbered one that does not exist
    (`MissesLayer`). The names of a data flow are bound exactly if its tokens can be read and
    neither is anywhere among them (`bind_isOk_iff`).

    A target is seen outside brackets only. The walk counts the brackets of a statement anew when it
    looks for targets, so the main step is that it keeps the places of the statement that is going
    on (`Walk.Follows`).
-/

namespace LayerGraph.Flow

/-! ### What is refused -/

/-- Whether a token behind others ends their statement: the end of a line does, and a semicolon
    outside brackets. -/
def endsStatement (earlier : List Token) (t : Token) : Bool :=
  t.kind == .newline || (t.isOperator [";"] && openBrackets earlier == 0)

/-- The statement that is going on behind some tokens, if this one was going on behind others. -/
def statementFrom (earlier statement : List Token) : List Token → List Token
  | [] => statement
  | t :: later =>
    statementFrom (earlier ++ [t]) (if endsStatement earlier t then [] else statement ++ [t]) later

/-- The tokens of the statement that is going on behind some tokens. -/
def statementOf (ts : List Token) : List Token := statementFrom [] [] ts

/-- Whether a token between others is a name that stands for a layer itself: it is no member of
    something else, and no member, item or result of the layer is meant. -/
def isBare (attributes : List String) (earlier : List Token) (t : Token) (later : List Token) :
    Bool :=
  t.kind == .name && attributes.contains t.string && !(previous? earlier).any (·.is ".")
    && !(following? later).any fun next => [".", "[", "("].contains next.string

/-- Whether a token between others is seen as a target: directly in front of `:=`, or outside the
    brackets of its statement and in front of another assignment that is outside of all brackets. -/
def IsTarget (earlier : List Token) (t : Token) (later : List Token) : Prop :=
  (∃ op rest, later = op :: rest ∧ op.isOperator [":="] = true) ∨
    ∃ middle op rest, later = middle ++ op :: rest ∧
      op.isOperator assignments = true ∧ op.is ":=" = false ∧
      openBrackets (earlier ++ t :: middle) = 0 ∧
      -- the statement goes on from the name to the assignment
      statementOf (earlier ++ t :: middle) = statementOf earlier ++ t :: middle ∧
      openBrackets (statementOf earlier) = 0

/-- Whether a token between others is the name of a layer that gets another value. -/
def Rebinds (attributes : List String) (earlier : List Token) (t : Token) (later : List Token) :
    Prop :=
  isBare attributes earlier t later = true ∧ IsTarget earlier t later

/-- Whether a token between others is a `self` through which a numbered layer is meant that does
    not exist. -/
def MissesLayer (attributes : List String) (earlier : List Token) (t : Token)
    (later : List Token) : Prop :=
  t.kind = .name ∧ t.is "self" = true ∧ (previous? earlier).any (·.is ".") = false ∧
    ∃ point behind name rest, codeAhead later = point :: behind ∧ codeAhead behind = name :: rest ∧
      point.is "." = true ∧ isLayerName name.text = true ∧ attributes.contains name.string = false

/-! ### Splits of a list -/

theorem forall_split_cons {α : Type} {P : List α → α → List α → Prop} {x : α} {xs : List α} :
    (∀ front t rest, x :: xs = front ++ t :: rest → P front t rest) ↔
      P [] x xs ∧ ∀ front t rest, xs = front ++ t :: rest → P (x :: front) t rest := by
  constructor
  · intro h
    refine ⟨h [] x xs rfl, fun front t rest hsplit => ?_⟩
    exact h (x :: front) t rest (congrArg (x :: ·) hsplit)
  · rintro ⟨hfirst, hrest⟩ front t rest hsplit
    cases front with
    | nil =>
      obtain ⟨rfl, rfl⟩ := List.cons.inj hsplit
      exact hfirst
    | cons y front =>
      obtain ⟨rfl, hbehind⟩ := List.cons.inj hsplit
      exact hrest front t rest hbehind

/-! ### Statements -/

theorem statementFrom_concat (earlier statement ts : List Token) (t : Token) :
    statementFrom earlier statement (ts ++ [t]) =
      if endsStatement (earlier ++ ts) t then []
      else statementFrom earlier statement ts ++ [t] := by
  induction ts generalizing earlier statement with
  | nil => rw [List.nil_append, List.append_nil, statementFrom, statementFrom, statementFrom]
  | cons u ts ih =>
    rw [List.cons_append, statementFrom, ih, statementFrom, List.append_assoc,
      List.singleton_append]

theorem statementOf_concat (ts : List Token) (t : Token) :
    statementOf (ts ++ [t]) = if endsStatement ts t then [] else statementOf ts ++ [t] := by
  rw [statementOf, statementFrom_concat, List.nil_append]
  rfl

theorem endsStatement_of_name {t : Token} (h : t.kind = .name) (earlier : List Token) :
    endsStatement earlier t = false := by
  rw [endsStatement, Token.isOperator, h]
  rfl

theorem statementFrom_isSuffix {earlier statement : List Token} (h : statement <:+ earlier)
    (ts : List Token) : statementFrom earlier statement ts <:+ earlier ++ ts := by
  induction ts generalizing earlier statement with
  | nil =>
    rw [statementFrom, List.append_nil]
    exact h
  | cons t ts ih =>
    rw [statementFrom, List.append_cons earlier t ts]
    apply ih
    split
    · exact List.nil_suffix
    · obtain ⟨before, rfl⟩ := h
      exact ⟨before, (List.append_assoc ..).symm⟩

/-- The statement that is going on is the end of the tokens. -/
theorem statementOf_isSuffix (ts : List Token) : statementOf ts <:+ ts :=
  statementFrom_isSuffix List.nil_suffix ts

/-- More tokens either belong to the statement that was going on, or the statement begins among
    them. -/
theorem statementOf_append (xs ys : List Token) :
    statementOf (xs ++ ys) = statementOf xs ++ ys ∨
      (statementOf (xs ++ ys)).length < ys.length := by
  induction ys generalizing xs with
  | nil => exact Or.inl (by rw [List.append_nil, List.append_nil])
  | cons t ys ih =>
    rw [List.append_cons, List.length_cons]
    rcases ih (xs ++ [t]) with hgoes | hbegins
    · rw [hgoes, statementOf_concat]
      split
      · exact Or.inr (Nat.lt_succ_self _)
      · exact Or.inl (List.append_cons (statementOf xs) t ys).symm
    · exact Or.inr (Nat.lt_succ_of_lt hbegins)

/-- What is in front of a part of the statement is in front of it in the statement as well. -/
theorem statementOf_of_append {xs ys front : List Token}
    (h : statementOf (xs ++ ys) = front ++ ys) : statementOf xs = front := by
  rcases statementOf_append xs ys with hgoes | hbegins
  · exact List.append_cancel_right (hgoes.symm.trans h)
  · rw [h, List.length_append] at hbegins
    omega

/-! ### Places -/

/-- The places of tokens between others. -/
def placesBetween (earlier : List Token) : List Token → List Token → List Place
  | [], _ => []
  | t :: ts, later =>
    ⟨t, previous? earlier, codeAhead (ts ++ later)⟩ :: placesBetween (earlier ++ [t]) ts later

theorem placesBetween_concat (earlier ts later : List Token) (t : Token) :
    placesBetween earlier (ts ++ [t]) later =
      placesBetween earlier ts (t :: later) ++
        [⟨t, previous? (earlier ++ ts), codeAhead later⟩] := by
  induction ts generalizing earlier with
  | nil => rw [List.nil_append, List.append_nil]; rfl
  | cons u ts ih =>
    rw [List.cons_append, placesBetween, placesBetween, ih, List.append_assoc, List.append_assoc]
    rfl

/-! ### Targets of a statement -/

theorem isOperator_eq_false {t : Token} (h : t.kind ≠ .operator) (texts : List String) :
    t.isOperator texts = false := by
  rw [Token.isOperator, decide_eq_false h, Bool.false_and]

theorem kind_of_isOperator {t : Token} {texts : List String} (h : t.isOperator texts = true) :
    t.kind = .operator :=
  of_decide_eq_true (Bool.and_eq_true_iff.1 h).1

theorem isBare_of_operator {attributes : List String} {earlier later : List Token} {t : Token}
    (h : t.kind = .operator) : isBare attributes earlier t later = false := by
  rw [isBare, h]
  rfl

theorem kind_of_isBare {attributes : List String} {earlier later : List Token} {t : Token}
    (h : isBare attributes earlier t later = true) : t.kind = .name := by
  rw [isBare, Bool.and_eq_true, Bool.and_eq_true, Bool.and_eq_true] at h
  exact beq_iff_eq.1 h.1.1.1

/-- The first token is a target if it is a bare name outside brackets; else it moves the count. -/
theorem rebound?_cons {attributes : List String} {depth : Nat} {earlier later : List Token}
    {t : Token} {targets : List Place} :
    rebound? attributes depth (⟨t, previous? earlier, codeAhead later⟩ :: targets) =
      if isBare attributes earlier t later && depth == 0 then some (t.string, t.line)
      else rebound? attributes (depthBehind depth t) targets := by
  have hbare : (decide (t.kind = .name) && attributes.contains t.string && depth == 0
      && !Place.isMember ⟨t, previous? earlier, codeAhead later⟩
      && !Place.isFollowedBy ⟨t, previous? earlier, codeAhead later⟩ [".", "[", "("]) =
        (isBare attributes earlier t later && depth == 0) := by
    have hmember : Place.isMember ⟨t, previous? earlier, codeAhead later⟩ =
        (previous? earlier).any (·.is ".") := by
      rw [Place.isMember]
      cases previous? earlier <;> rfl
    have hfollowed : Place.isFollowedBy ⟨t, previous? earlier, codeAhead later⟩ [".", "[", "("] =
        (following? later).any fun next => [".", "[", "("].contains next.string := by
      rw [Place.isFollowedBy, head?_codeAhead]
      cases following? later <;> rfl
    rw [hmember, hfollowed, isBare, Bool.beq_eq_decide_eq t.kind]
    -- the two sides ask the same questions in another order
    generalize decide (t.kind = .name) = a, attributes.contains t.string = b,
      (depth == 0) = c, (previous? earlier).any _ = d, (following? later).any _ = e
    cases a <;> cases b <;> cases c <;> cases d <;> cases e <;> rfl
  rw [rebound?]
  simp only [hbare]
  by_cases hopen : t.isOperator openers = true
  · rw [if_pos hopen, isBare_of_operator (kind_of_isOperator hopen), depthBehind, if_pos hopen]
    rfl
  · rw [if_neg hopen]
    by_cases hclose : t.isOperator closers = true
    · rw [if_pos hclose, isBare_of_operator (kind_of_isOperator hclose), depthBehind,
        if_neg hopen, if_pos hclose]
      rfl
    · rw [if_neg hclose, depthBehind, if_neg hopen, if_neg hclose]

/-- Among the targets of an assignment no layer is rebound exactly if no bare name is outside
    brackets. -/
theorem rebound?_eq_none {attributes : List String} {depth : Nat} {earlier ts later : List Token} :
    rebound? attributes depth (placesBetween earlier ts later) = none ↔
      ∀ front t rest, ts = front ++ t :: rest → front.foldl depthBehind depth = 0 →
        isBare attributes (earlier ++ front) t (rest ++ later) = false := by
  induction ts generalizing earlier depth with
  | nil => exact ⟨fun _ front t rest h => absurd h (by simp), fun _ => rfl⟩
  | cons u ts ih =>
    rw [placesBetween, rebound?_cons, forall_split_cons, List.append_nil, List.foldl_nil]
    simp only [List.foldl_cons]
    split
    · next hrebound =>
      rw [Bool.and_eq_true, beq_iff_eq] at hrebound
      refine ⟨nofun, fun h => ?_⟩
      exact absurd (h.1 hrebound.2) (by rw [hrebound.1]; exact nofun)
    · next hkept =>
      rw [ih]
      simp only [List.append_assoc, List.singleton_append]
      refine ⟨fun h => ⟨fun hdepth => ?_, h⟩, fun h => h.2⟩
      rw [hdepth, beq_self_eq_true, Bool.and_true] at hkept
      exact Bool.eq_false_iff.2 hkept

theorem checkTargets_eq_ok {attributes : List String} {targets : List Place} :
    checkTargets attributes targets = .ok () ↔ rebound? attributes 0 targets = none := by
  unfold checkTargets
  split
  · next h => simp [h]
  · next h => simp [h]

/-! ### The walk -/

/-- A walk that has seen some tokens, with others still to come: it has counted their brackets, and
    keeps the places of the statement that is going on. -/
structure Walk.Follows (w : Walk) (earlier later : List Token) : Prop where
  depth_eq : w.depth = openBrackets earlier
  statement_eq : ∃ before, earlier = before ++ statementOf earlier ∧
    w.statement.reverse = placesBetween before (statementOf earlier) later

theorem Walk.follows_start (later : List Token) : Walk.start.Follows [] later :=
  ⟨rfl, [], rfl, rfl⟩

/-- The walk behind a token: its brackets are counted, and the statement is ended or grows. -/
def Walk.pass (w : Walk) (earlier : List Token) (t : Token) (later : List Token) : Walk where
  depth := depthBehind w.depth t
  statement :=
    if endsStatement earlier t then [] else ⟨t, previous? earlier, codeAhead later⟩ :: w.statement

section pass
variable {w : Walk} {earlier later : List Token} {t : Token}

theorem Walk.Follows.pass (h : w.Follows earlier (t :: later)) :
    (w.pass earlier t later).Follows (earlier ++ [t]) later := by
  obtain ⟨before, hbefore, hplaces⟩ := h.statement_eq
  refine ⟨by rw [Walk.pass, h.depth_eq, openBrackets_concat], ?_⟩
  rw [statementOf_concat, Walk.pass]
  split
  · exact ⟨earlier ++ [t], (List.append_nil _).symm, rfl⟩
  · refine ⟨before, ?_, ?_⟩
    · rw [← List.append_assoc, ← hbefore]
    · rw [List.reverse_cons, hplaces, placesBetween_concat, ← hbefore]

theorem Walk.pass_of_newline (h : t.kind = .newline) :
    w.pass earlier t later = { w with statement := [] } := by
  rw [Walk.pass, depthBehind_of_ne (by simp [h]), endsStatement, h]
  rfl

/-- Only ends of lines and operators are more than the next token of a statement. -/
theorem Walk.pass_of_ne (hnewline : t.kind ≠ .newline) (hoperator : t.kind ≠ .operator) :
    w.pass earlier t later = w.push ⟨t, previous? earlier, codeAhead later⟩ := by
  rw [Walk.pass, depthBehind_of_ne hoperator, endsStatement, beq_false_of_ne hnewline,
    isOperator_eq_false hoperator]
  rfl

end pass

/-- Whether an operator between others rebinds no layer: none stands directly in front of `:=`, and
    none is a target of another assignment. -/
def RebindsNone (attributes : List String) (earlier : List Token) (op : Token)
    (later : List Token) : Prop :=
  (op.isOperator [":="] = true → ∀ front t, earlier = front ++ [t] →
    isBare attributes front t (op :: later) = false) ∧
  (op.isOperator assignments = true → op.is ":=" = false → openBrackets earlier = 0 →
    ∀ before front t middle, earlier = before ++ (front ++ t :: middle) →
      statementOf earlier = front ++ t :: middle → openBrackets front = 0 →
        isBare attributes (before ++ front) t (middle ++ op :: later) = false)

theorem rebindsNone_of_ne {attributes : List String} {earlier later : List Token} {t : Token}
    (h : t.kind ≠ .operator) : RebindsNone attributes earlier t later := by
  constructor
  · intro hop
    exact absurd (kind_of_isOperator hop) h
  · intro hop
    exact absurd (kind_of_isOperator hop) h

section walk
variable {attributes : List String} {w : Walk} {earlier later : List Token} {t : Token}

/-- The check in front of `:=` looks at the token directly before. -/
theorem checkTargets_take_one (h : w.Follows earlier (t :: later)) :
    checkTargets attributes (w.statement.take 1) = .ok () ↔
      ∀ front name, earlier = front ++ [name] →
        isBare attributes front name (t :: later) = false := by
  obtain ⟨before, hbefore, hplaces⟩ := h.statement_eq
  rw [checkTargets_eq_ok]
  rcases List.eq_nil_or_concat earlier with rfl | ⟨front, name, hconcat⟩
  · rw [← List.reverse_reverse w.statement, hplaces]
    exact ⟨fun _ front name h => absurd h (by simp), fun _ => rfl⟩
  · rw [List.concat_eq_append] at hconcat
    subst hconcat
    rw [statementOf_concat] at hbefore hplaces
    -- there is only one token directly before
    have hone : (∀ front' name', front ++ [name] = front' ++ [name'] →
        isBare attributes front' name' (t :: later) = false) ↔
          isBare attributes front name (t :: later) = false := by
      refine ⟨fun h => h front name rfl, fun h front' name' hsame => ?_⟩
      obtain ⟨rfl, hname⟩ := List.append_inj' hsame rfl
      obtain rfl := List.singleton_inj.1 hname
      exact h
    rw [hone]
    split at hplaces
    · -- a token that ends a statement is no name
      next hends =>
      rw [← List.reverse_reverse w.statement, hplaces]
      refine ⟨fun _ => ?_, fun _ => rfl⟩
      rw [Bool.eq_false_iff]
      intro hbare
      rw [endsStatement_of_name (kind_of_isBare hbare)] at hends
      exact absurd hends nofun
    · next hgoes =>
      rw [if_neg hgoes, ← List.append_assoc] at hbefore
      obtain ⟨hfront, -⟩ := List.append_inj' hbefore rfl
      rw [placesBetween_concat, ← hfront] at hplaces
      have hlast : w.statement.take 1 = [⟨name, previous? front, codeAhead (t :: later)⟩] := by
        rw [← List.reverse_reverse w.statement, hplaces, List.reverse_append]
        rfl
      rw [hlast, rebound?_cons, beq_self_eq_true, Bool.and_true]
      cases isBare attributes front name (t :: later) <;> simp [rebound?]

/-- The check in front of another assignment looks at the statement so far. -/
theorem checkTargets_reverse (h : w.Follows earlier (t :: later)) :
    checkTargets attributes w.statement.reverse = .ok () ↔
      ∀ before front name middle, earlier = before ++ (front ++ name :: middle) →
        statementOf earlier = front ++ name :: middle → openBrackets front = 0 →
          isBare attributes (before ++ front) name (middle ++ t :: later) = false := by
  obtain ⟨before, hbefore, hplaces⟩ := h.statement_eq
  rw [checkTargets_eq_ok, hplaces, rebound?_eq_none]
  constructor
  · intro hnone before' front name middle hsplit hstatement hdepth
    have hsame : before' = before := by
      rw [← hstatement] at hsplit
      exact List.append_cancel_right (hsplit.symm.trans hbefore)
    rw [hsame]
    exact hnone front name middle hstatement hdepth
  · intro hnone front name middle hstatement hdepth
    exact hnone before front name middle (hstatement ▸ hbefore) hstatement hdepth

theorem rebindsNone_iff (h : w.Follows earlier (t :: later)) (hkind : t.kind = .operator) :
    RebindsNone attributes earlier t later ↔
      (t.is ":=" = true → checkTargets attributes (w.statement.take 1) = .ok ()) ∧
      (t.isOperator assignments = true → t.is ":=" = false → w.depth = 0 →
        checkTargets attributes w.statement.reverse = .ok ()) := by
  have hwalrus : t.isOperator [":="] = t.is ":=" := by
    rw [Token.isOperator, decide_eq_true hkind, Bool.true_and, Token.is_eq, List.contains_cons,
      List.contains_nil, Bool.or_false]
  rw [RebindsNone, hwalrus, checkTargets_take_one h, checkTargets_reverse h, h.depth_eq]

/-- A bracket is no other mark that the walk asks for. -/
theorem marks_of_bracket {s : String}
    (h : openers.contains s = true ∨ closers.contains s = true) :
    (s == ";") = false ∧ (s == ":=") = false ∧ assignments.contains s = false := by
  have hopeners : ∀ s ∈ openers,
      (s == ";") = false ∧ (s == ":=") = false ∧ assignments.contains s = false := by
    decide
  have hclosers : ∀ s ∈ closers,
      (s == ";") = false ∧ (s == ":=") = false ∧ assignments.contains s = false := by
    decide
  exact h.elim (fun h => hopeners s (List.contains_iff_mem.1 h)) fun h =>
    hclosers s (List.contains_iff_mem.1 h)

/-- An operator is passed exactly if it rebinds no layer. Behind it the brackets are counted, and a
    semicolon has ended the statement. -/
theorem stepOperator_eq_ok (h : w.Follows earlier (t :: later)) (hkind : t.kind = .operator)
    {next : Walk} :
    stepOperator attributes w ⟨t, previous? earlier, codeAhead later⟩ = .ok next ↔
      RebindsNone attributes earlier t later ∧ next = w.pass earlier t later := by
  have hoperator (texts : List String) : t.isOperator texts = texts.contains t.string := by
    rw [Token.isOperator, decide_eq_true hkind, Bool.true_and]
  have hends : endsStatement earlier t = (t.is ";" && w.depth == 0) := by
    rw [endsStatement, hoperator, h.depth_eq, hkind, Token.is_eq, List.contains_cons,
      List.contains_nil, Bool.or_false]
    rfl
  have hok (behind : Walk) :
      (Except.ok behind : Except Reason Walk) = .ok next ↔ next = behind := by
    rw [Except.ok.injEq, eq_comm]
  have hcheck (targets : List Place) (behind : Walk) :
      (do checkTargets attributes targets; return behind) = Except.ok next ↔
        checkTargets attributes targets = .ok () ∧ next = behind := by
    rw [Result.bind_eq_ok, ← hok]
    exact ⟨fun h => ⟨h.choose_spec.1, h.choose_spec.2⟩, fun h => ⟨(), h⟩⟩
  rw [rebindsNone_iff h hkind, Walk.pass, hends]
  unfold stepOperator depthBehind
  simp only [hoperator, Token.is_eq]
  -- brackets assign nothing, they only change the depth
  by_cases hopen : openers.contains t.string = true
  · obtain ⟨hsemicolon, hwalrus, hassign⟩ := marks_of_bracket (Or.inl hopen)
    rw [if_pos hopen, if_pos hopen, hok, hsemicolon, hwalrus, hassign]
    exact (and_iff_right ⟨by simp, by simp⟩).symm
  by_cases hclose : closers.contains t.string = true
  · obtain ⟨hsemicolon, hwalrus, hassign⟩ := marks_of_bracket (Or.inr hclose)
    rw [if_neg hopen, if_pos hclose, if_neg hopen, if_pos hclose, hok, hsemicolon, hwalrus, hassign]
    exact (and_iff_right ⟨by simp, by simp⟩).symm
  rw [if_neg hopen, if_neg hclose, if_neg hopen, if_neg hclose]
  by_cases hsemicolon : (t.string == ";") = true
  · -- a semicolon assigns nothing, wherever it stands
    have hwalrus : (t.string == ":=") = false := by rw [beq_iff_eq.1 hsemicolon]; rfl
    have hassign : assignments.contains t.string = false := by rw [beq_iff_eq.1 hsemicolon]; rfl
    rw [hsemicolon, hwalrus, hassign]
    cases w.depth == 0 with
    | true => exact (hok _).trans (and_iff_right ⟨by simp, by simp⟩).symm
    | false => exact (hok _).trans (and_iff_right ⟨by simp, by simp⟩).symm
  rw [Bool.eq_false_iff.2 hsemicolon, Bool.false_and]
  by_cases hwalrus : (t.string == ":=") = true
  · rw [hwalrus]
    refine (hcheck _ _).trans (and_congr_left fun _ => ?_)
    exact ⟨fun hc => ⟨fun _ => hc, by simp⟩, fun hc => hc.1 rfl⟩
  rw [Bool.eq_false_iff.2 hwalrus]
  -- the other signs of assignment count outside of brackets only
  by_cases hassign : (assignments.contains t.string && w.depth == 0) = true
  · obtain ⟨hassignment, hdepth⟩ := Bool.and_eq_true_iff.1 hassign
    rw [if_neg Bool.false_ne_true, if_neg Bool.false_ne_true, if_pos hassign]
    refine (hcheck _ _).trans (and_congr_left fun _ => ?_)
    exact ⟨fun hc => ⟨by simp, fun _ _ _ => hc⟩, fun hc =>
      hc.2 hassignment rfl (beq_iff_eq.1 hdepth)⟩
  · rw [if_neg Bool.false_ne_true, if_neg Bool.false_ne_true, if_neg hassign, hok]
    refine (and_iff_right ⟨by simp, fun hassignment _ hdepth => absurd ?_ hassign⟩).symm
    rw [hassignment, hdepth]
    rfl

theorem checkReference_eq_ok {before? : Option Token} :
    checkReference attributes ⟨t, before?, codeAhead later⟩ = .ok () ↔
      ¬∃ point behind name rest, codeAhead later = point :: behind ∧
        codeAhead behind = name :: rest ∧ point.is "." = true ∧
          isLayerName name.text = true ∧ attributes.contains name.string = false := by
  unfold checkReference
  split
  · next hnone =>
    dsimp only at hnone
    simp [hnone]
  next point behind hpoint =>
  dsimp only at hpoint
  rw [hpoint]
  split
  · next hnone =>
    refine ⟨fun _ => ?_, fun _ => rfl⟩
    rintro ⟨point', behind', name, rest, hsame, hname, -⟩
    obtain ⟨rfl, rfl⟩ := List.cons.inj hsame
    rw [hnone] at hname
    exact absurd hname nofun
  next name rest hname =>
  -- a point and a name follow, so there is nothing else that the condition could be about
  by_cases hmissing : (point.is "." && isLayerName name.text && !attributes.contains name.string) =
      true
  · rw [if_pos hmissing]
    rw [Bool.and_eq_true, Bool.and_eq_true, Bool.not_eq_true'] at hmissing
    refine ⟨nofun, fun hno => absurd ?_ hno⟩
    exact ⟨point, behind, name, rest, rfl, hname, hmissing.1.1, hmissing.1.2, hmissing.2⟩
  · rw [if_neg hmissing]
    refine ⟨fun _ => ?_, fun _ => rfl⟩
    rintro ⟨point', behind', name', rest', hsame, hname', hpoint', hlayer, hunknown⟩
    obtain ⟨rfl, rfl⟩ := List.cons.inj hsame
    obtain ⟨rfl, rfl⟩ := List.cons.inj (hname.symm.trans hname')
    rw [hpoint', hlayer, hunknown] at hmissing
    exact hmissing rfl

theorem not_missesLayer_of_ne (h : t.kind ≠ .name) : ¬MissesLayer attributes earlier t later :=
  fun hmisses => h hmisses.1

/-- A name is passed exactly if no missing layer is meant through it. -/
theorem checkSelf_eq_ok (hkind : t.kind = .name) :
    (if (t.is "self" && !Place.isMember ⟨t, previous? earlier, codeAhead later⟩) = true then
        checkReference attributes ⟨t, previous? earlier, codeAhead later⟩ else .ok ()) = .ok () ↔
      ¬MissesLayer attributes earlier t later := by
  have hmember : Place.isMember ⟨t, previous? earlier, codeAhead later⟩ =
      (previous? earlier).any (·.is ".") := by
    rw [Place.isMember]
    cases previous? earlier <;> rfl
  rw [hmember]
  by_cases hself : (t.is "self" && !(previous? earlier).any (·.is ".")) = true
  · rw [if_pos hself, checkReference_eq_ok]
    rw [Bool.and_eq_true, Bool.not_eq_true'] at hself
    exact not_congr ⟨fun hmisses => ⟨hkind, hself.1, hself.2, hmisses⟩, fun hmisses =>
      hmisses.2.2.2⟩
  · rw [if_neg hself]
    refine ⟨fun _ hmisses => hself ?_, fun _ => rfl⟩
    rw [hmisses.2.1, hmisses.2.2.1]
    rfl

/-! ### Steps of the walk -/

theorem checkTargets_eq_error {targets : List Place} {reason : Reason}
    (h : checkTargets attributes targets = .error reason) :
    ∃ name line, reason = .assignsLayer name line := by
  unfold checkTargets at h
  split at h
  · next name line _ => exact ⟨name, line, (Except.error.inj h).symm⟩
  · exact absurd h nofun

theorem stepOperator_eq_error {p : Place} {reason : Reason}
    (h : stepOperator attributes w p = .error reason) :
    ∃ name line, reason = .assignsLayer name line := by
  unfold stepOperator at h
  dsimp only at h
  split at h
  · exact absurd h nofun
  split at h
  · exact absurd h nofun
  split at h
  · exact absurd h nofun
  split at h
  · rcases Result.bind_eq_error.1 h with hcheck | ⟨_, _, hpure⟩
    · exact checkTargets_eq_error hcheck
    · exact absurd hpure nofun
  split at h
  · rcases Result.bind_eq_error.1 h with hcheck | ⟨_, _, hpure⟩
    · exact checkTargets_eq_error hcheck
    · exact absurd hpure nofun
  · exact absurd h nofun

theorem checkReference_eq_error {p : Place} {reason : Reason}
    (h : checkReference attributes p = .error reason) :
    ∃ name line, reason = .undefinedLayer name line := by
  unfold checkReference at h
  split at h
  · exact absurd h nofun
  split at h
  · exact absurd h nofun
  split at h
  · exact ⟨_, _, (Except.error.inj h).symm⟩
  · exact absurd h nofun

/-- What the walk does with a token: it stops at one that rebinds a layer or that misses one, and
    goes on behind any other, which may be a name to be found. -/
theorem references_cons (h : w.Follows earlier (t :: later))
    {walked : Except Reason (List Token)}
    (hwalked : references attributes w (places (previous? earlier) (t :: later)) = walked) :
    (¬RebindsNone attributes earlier t later ∧
        ∃ name line, walked = .error (.assignsLayer name line)) ∨
      (MissesLayer attributes earlier t later ∧
        ∃ name line, walked = .error (.undefinedLayer name line)) ∨
      (RebindsNone attributes earlier t later ∧ ¬MissesLayer attributes earlier t later ∧
        ∃ found, walked = (found ++ ·) <$> references attributes (w.pass earlier t later)
          (places (previous? (earlier ++ [t])) later)) := by
  have hsilent (x : Except Reason (List Token)) : ∃ found, x = (found ++ ·) <$> x :=
    ⟨[], (id_map x).symm⟩
  rw [places, ← previous?_concat, references] at hwalked
  dsimp only at hwalked
  split at hwalked
  · next hkind =>
    refine Or.inr (Or.inr ⟨rebindsNone_of_ne (by simp [hkind]),
      not_missesLayer_of_ne (by simp [hkind]), ?_⟩)
    rw [Walk.pass_of_newline hkind, hwalked]
    exact hsilent walked
  · next hkind =>
    cases hstep : stepOperator attributes w ⟨t, previous? earlier, codeAhead later⟩ with
    | ok next =>
      obtain ⟨hnone, rfl⟩ := (stepOperator_eq_ok h hkind).1 hstep
      rw [hstep] at hwalked
      refine Or.inr (Or.inr ⟨hnone, not_missesLayer_of_ne (by simp [hkind]), ?_⟩)
      exact hwalked ▸ hsilent _
    | error reason =>
      obtain ⟨name, line, rfl⟩ := stepOperator_eq_error hstep
      rw [hstep] at hwalked
      refine Or.inl ⟨fun hnone => ?_, name, line, hwalked.symm⟩
      cases ((stepOperator_eq_ok h hkind).2 ⟨hnone, rfl⟩).symm.trans hstep
  · next hkind =>
    have hnone : RebindsNone attributes earlier t later := rebindsNone_of_ne (by simp [hkind])
    have hpass : w.pass earlier t later = w.push ⟨t, previous? earlier, codeAhead later⟩ :=
      Walk.pass_of_ne (by simp [hkind]) (by simp [hkind])
    -- behind the check of a `self`, the name is added if it refers to a layer
    have hgoes {x : Except Reason (List Token)} (hx : (do
        let others ← references attributes (w.push ⟨t, previous? earlier, codeAhead later⟩)
          (places (previous? (earlier ++ [t])) later)
        return if refersToLayer attributes w ⟨t, previous? earlier, codeAhead later⟩ then
          t :: others else others) = x) :
        ∃ found, x = (found ++ ·) <$> references attributes (w.pass earlier t later)
          (places (previous? (earlier ++ [t])) later) := by
      rw [hpass, ← hx]
      cases refersToLayer attributes w ⟨t, previous? earlier, codeAhead later⟩ with
      | true => exact ⟨[t], rfl⟩
      | false => exact ⟨[], rfl⟩
    split at hwalked
    · next hself =>
      have hcheck : checkReference attributes ⟨t, previous? earlier, codeAhead later⟩ = .ok () ↔
          ¬MissesLayer attributes earlier t later := by
        rw [← checkSelf_eq_ok hkind, if_pos hself]
      cases hreference : checkReference attributes ⟨t, previous? earlier, codeAhead later⟩ with
      | ok =>
        rw [hreference] at hwalked
        exact Or.inr (Or.inr ⟨hnone, hcheck.1 hreference, hgoes hwalked⟩)
      | error reason =>
        obtain ⟨name, line, rfl⟩ := checkReference_eq_error hreference
        rw [hreference] at hwalked
        refine Or.inr (Or.inl ⟨Classical.byContradiction fun hnot => ?_, name, line, hwalked.symm⟩)
        cases (hcheck.2 hnot).symm.trans hreference
    · next hself =>
      have hnamed : ¬MissesLayer attributes earlier t later := by
        rw [← checkSelf_eq_ok hkind, if_neg hself]
      exact Or.inr (Or.inr ⟨hnone, hnamed, hgoes hwalked⟩)
  · next hnewline hoperator hname =>
    refine Or.inr (Or.inr ⟨rebindsNone_of_ne hoperator, not_missesLayer_of_ne hname, ?_⟩)
    rw [Walk.pass_of_ne hnewline hoperator, hwalked]
    exact hsilent walked

end walk

/-- The walk over tokens finds names exactly if no operator rebinds a layer and no layer is
    missing. -/
theorem references_isOk_iff {attributes : List String} {w : Walk} {earlier ts : List Token}
    (h : w.Follows earlier ts) :
    (∃ names, references attributes w (places (previous? earlier) ts) = .ok names) ↔
      ∀ front t rest, ts = front ++ t :: rest →
        RebindsNone attributes (earlier ++ front) t rest ∧
          ¬MissesLayer attributes (earlier ++ front) t rest := by
  induction ts generalizing w earlier with
  | nil => exact ⟨fun _ front t rest hsplit => absurd hsplit (by simp), fun _ => ⟨[], rfl⟩⟩
  | cons t later ih =>
    rw [forall_split_cons, List.append_nil]
    rcases references_cons h rfl with ⟨hrebinds, name, line, herror⟩ |
      ⟨hmisses, name, line, herror⟩ | ⟨hnone, hnamed, found, hwalked⟩
    · rw [herror]
      exact ⟨nofun, fun hall => absurd hall.1.1 hrebinds⟩
    · rw [herror]
      exact ⟨nofun, fun hall => absurd hmisses hall.1.2⟩
    · have hlater := ih h.pass
      simp only [List.append_assoc, List.singleton_append] at hlater
      rw [hwalked, ← hlater]
      constructor
      · rintro ⟨names, hnames⟩
        obtain ⟨others, hothers, -⟩ := Result.map_eq_ok.1 hnames
        exact ⟨⟨hnone, hnamed⟩, others, hothers⟩
      · rintro ⟨-, others, hothers⟩
        exact ⟨_, Result.map_eq_ok.2 ⟨others, hothers, rfl⟩⟩

/-- A walk that fails says of some token that it rebinds a layer, or that it misses one. -/
theorem references_eq_error {attributes : List String} {w : Walk} {earlier ts : List Token}
    (h : w.Follows earlier ts) {reason : Reason}
    (herror : references attributes w (places (previous? earlier) ts) = .error reason) :
    ((∃ name line, reason = .assignsLayer name line) ∧
        ∃ front t rest, ts = front ++ t :: rest ∧
          ¬RebindsNone attributes (earlier ++ front) t rest) ∨
      ((∃ name line, reason = .undefinedLayer name line) ∧
        ∃ front t rest, ts = front ++ t :: rest ∧
          MissesLayer attributes (earlier ++ front) t rest) := by
  induction ts generalizing w earlier with
  | nil => exact absurd herror nofun
  | cons t later ih =>
    rcases references_cons h herror with ⟨hrebinds, name, line, hreason⟩ |
      ⟨hmisses, name, line, hreason⟩ | ⟨_, _, found, hwalked⟩
    · refine Or.inl ⟨⟨name, line, Except.error.inj hreason⟩, [], t, later, rfl, ?_⟩
      rwa [List.append_nil]
    · refine Or.inr ⟨⟨name, line, Except.error.inj hreason⟩, [], t, later, rfl, ?_⟩
      rwa [List.append_nil]
    · rcases ih h.pass (Result.map_eq_error.1 hwalked.symm) with
        ⟨hreason, front, u, rest, rfl, hfault⟩ | ⟨hreason, front, u, rest, rfl, hfault⟩
      · exact Or.inl ⟨hreason, t :: front, u, rest, rfl, by rwa [List.append_cons]⟩
      · exact Or.inr ⟨hreason, t :: front, u, rest, rfl, by rwa [List.append_cons]⟩

/-! ### Binding -/

/-- An operator rebinds a layer exactly if a name in front of it is rebound by it. -/
theorem forall_rebindsNone_iff {attributes : List String} {ts : List Token} :
    (∀ front t rest, ts = front ++ t :: rest → RebindsNone attributes front t rest) ↔
      ∀ earlier t later, ts = earlier ++ t :: later → ¬Rebinds attributes earlier t later := by
  constructor
  · rintro hnone earlier t later rfl ⟨hbare, htarget⟩
    rcases htarget with ⟨op, rest, rfl, hop⟩ |
      ⟨middle, op, rest, rfl, hop, hother, hdepth, hgoes, houtside⟩
    · -- directly in front of the mark
      have hfree := (hnone (earlier ++ [t]) op rest (List.append_cons ..)).1 hop earlier t rfl
      rw [hbare] at hfree
      exact absurd hfree nofun
    · have hsplit : earlier ++ t :: (middle ++ op :: rest) =
          (earlier ++ t :: middle) ++ op :: rest := by
        rw [List.append_assoc]
        rfl
      -- the walk knows only the statement at hand, which is the end of what came earlier
      obtain ⟨before, hbefore⟩ := statementOf_isSuffix earlier
      have hfree := (hnone _ op rest hsplit).2 hop hother hdepth before (statementOf earlier) t
        middle (by rw [← List.append_assoc, hbefore]) hgoes houtside
      rw [hbefore, hbare] at hfree
      exact absurd hfree nofun
  · intro hnone front op rest hsplit
    constructor
    · rintro hop earlier t rfl
      rw [Bool.eq_false_iff]
      intro hbare
      rw [List.append_assoc] at hsplit
      exact hnone earlier t (op :: rest) hsplit ⟨hbare, Or.inl ⟨op, rest, rfl, hop⟩⟩
    · rintro hop hother hdepth before earlier t middle rfl hstatement houtside
      rw [Bool.eq_false_iff]
      intro hbare
      rw [← List.append_assoc] at hsplit hdepth hstatement
      have hearlier : statementOf (before ++ earlier) = earlier := statementOf_of_append hstatement
      rw [List.append_assoc] at hsplit
      refine hnone (before ++ earlier) t (middle ++ op :: rest) hsplit ⟨hbare, Or.inr ?_⟩
      refine ⟨middle, op, rest, rfl, hop, hother, hdepth, ?_, ?_⟩
      · rw [hearlier, hstatement]
      · rw [hearlier, houtside]

/-- The names of a data flow are bound exactly if its tokens can be read, and no layer is rebound
    and none is missing among them. -/
theorem bind_isOk_iff {attributes : List String} {dataFlow : String} :
    (∃ bound, bind attributes dataFlow = .ok bound) ↔
      ∃ ts, tokens (normalLines dataFlow) = .ok ts ∧
        ∀ earlier t later, ts = earlier ++ t :: later →
          ¬Rebinds attributes earlier t later ∧ ¬MissesLayer attributes earlier t later := by
  have hwalk (ts : List Token) :
      (∃ names, references attributes .start (places none ts) = .ok names) ↔
        ∀ earlier t later, ts = earlier ++ t :: later →
          ¬Rebinds attributes earlier t later ∧ ¬MissesLayer attributes earlier t later := by
    rw [show places none ts = places (previous? []) ts from rfl,
      references_isOk_iff (Walk.follows_start ts)]
    simp only [List.nil_append, forall_and, forall_rebindsNone_iff]
  unfold bind
  simp only [Result.bind_eq_ok, Result.mapError_eq_ok, ← hwalk]
  constructor
  · rintro ⟨bound, ts, hts, names, hnames, -⟩
    exact ⟨ts, hts, names, hnames⟩
  · rintro ⟨ts, hts, names, hnames⟩
    exact ⟨_, ts, hts, names, hnames, rfl⟩

end LayerGraph.Flow
