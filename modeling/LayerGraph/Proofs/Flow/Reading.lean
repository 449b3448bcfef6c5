import LayerGraph.Proofs.Flow.Rebinding

/-! # Statements that read layers

    A data flow that is refused for an assignment to a layer holds a token that is seen as a target
    (`bind_eq_error_assigns`). Statements are taken apart here into a header of a compound
    statement, targets with their signs of assignment, and a value (`Statement`). In a data flow of
    statements that only read layers (`Statement.ReadsOnly`) no target is a layer, and still some
    are refused: the check begins at the start of the statement, so it meets what is read in the
    header, and in the value in front of the default of a parameter (`rebinds_iff_misleads`).
-/

namespace LayerGraph.Flow

/-! ### Which error it is -/

/-- A data flow is refused for an assignment to a layer only if one is rebound, and is so refused if
    one is rebound and none is missing. -/
theorem bind_eq_error_assigns {attributes : List String} {dataFlow : String} {ts : List Token}
    (hts : tokens (normalLines dataFlow) = .ok ts) :
    ((∃ name line, bind attributes dataFlow = .error (.assignsLayer name line)) →
      ∃ earlier t later, ts = earlier ++ t :: later ∧ Rebinds attributes earlier t later) ∧
    ((∃ earlier t later, ts = earlier ++ t :: later ∧ Rebinds attributes earlier t later) →
      (∀ earlier t later, ts = earlier ++ t :: later → ¬MissesLayer attributes earlier t later) →
        ∃ name line, bind attributes dataFlow = .error (.assignsLayer name line)) := by
  have herror (reason : Reason) : bind attributes dataFlow = .error reason ↔
      references attributes .start (places (previous? []) ts) = .error reason := by
    have hread : (tokens (normalLines dataFlow)).mapError Reason.unreadable = .ok ts :=
      Result.mapError_eq_ok.2 hts
    unfold bind
    simp only [hread, bind_pure_comp]
    exact Result.map_eq_error
  have hwalk := Walk.follows_start ts
  constructor
  · rintro ⟨name, line, hbind⟩
    rcases references_eq_error hwalk ((herror _).1 hbind) with ⟨-, front, t, rest, hsplit, hfault⟩ |
      ⟨⟨_, _, hreason⟩, -⟩
    · refine Classical.byContradiction fun hnone => hfault ?_
      refine forall_rebindsNone_iff.2 (fun earlier t later hts hrebinds => ?_) front t rest hsplit
      exact hnone ⟨earlier, t, later, hts, hrebinds⟩
    · exact absurd hreason nofun
  · rintro ⟨earlier, t, later, hsplit, hrebinds⟩ hnone
    cases hbind : references attributes .start (places (previous? []) ts) with
    | ok names =>
      have hpassed := (references_isOk_iff hwalk).1 ⟨names, hbind⟩
      have hfree := forall_rebindsNone_iff.1 fun front t rest h => (hpassed front t rest h).1
      exact absurd hrebinds (hfree earlier t later hsplit)
    | error reason =>
      rcases references_eq_error hwalk hbind with ⟨⟨name, line, rfl⟩, -⟩ |
        ⟨-, front, t, rest, hmiss, hfault⟩
      · exact ⟨name, line, (herror _).2 hbind⟩
      · exact absurd hfault (hnone front t rest hmiss)

/-! ### Statements -/

/-- Whether tokens behind open brackets stay within a statement, and close all brackets. -/
def staysWithin (depth : Nat) : List Token → Bool
  | [] => depth == 0
  | t :: ts =>
    !(t.kind == .newline || (t.isOperator [";"] && depth == 0)) &&
      staysWithin (depthBehind depth t) ts

/-- The head of a compound statement that goes on in the same line. -/
structure Header where
  keyword : Token
  condition : List Token
  colon : Token

namespace Header

def tokens (h : Header) : List Token := h.keyword :: h.condition ++ [h.colon]

/-- A keyword, what it asks, and a colon. -/
structure IsFormed (h : Header) : Prop where
  keyword_kind : h.keyword.kind = .name
  keyword_mem : h.keyword.string ∈ ["if", "while", "for", "with"]
  condition : staysWithin 0 h.condition = true
  colon : h.colon.isOperator [":"] = true

end Header

/-- A statement: comments and marks of the layout, perhaps the head of a compound statement, targets
    with their signs of assignment, a value, and what ends the statement. -/
structure Statement where
  margin : List Token
  header : Option Header
  targets : List (List Token × Token)
  value : List Token
  ending : Token

namespace Statement

/-- What stands in front of the targets. -/
def lead (s : Statement) : List Token := s.margin ++ (s.header.map Header.tokens).getD []

/-- The targets, each with its sign of assignment. -/
def aims (s : Statement) : List Token := s.targets.flatMap fun target => target.1 ++ [target.2]

/-- All tokens in front of the ending. -/
def body (s : Statement) : List Token := s.lead ++ s.aims ++ s.value

def tokens (s : Statement) : List Token := s.body ++ [s.ending]

/-- No part of a statement ends it, and each closes its brackets. -/
structure IsFormed (s : Statement) : Prop where
  margin : ∀ t ∈ s.margin, t.carriesCode = false
  header : ∀ h, s.header = some h → h.IsFormed
  aims : ∀ target ∈ s.targets, staysWithin 0 target.1 = true
  signs : ∀ target ∈ s.targets, target.2.isOperator assignments = true ∧ target.2.is ":=" = false
  value : staysWithin 0 s.value = true
  ending : s.ending.kind = .newline ∨ s.ending.isOperator [";"] = true

end Statement

/-! ### Tokens that stay within a statement -/

theorem staysWithin_append {depth : Nat} {xs ys : List Token} (hxs : staysWithin depth xs = true)
    (hys : staysWithin 0 ys = true) : staysWithin depth (xs ++ ys) = true := by
  induction xs generalizing depth with
  | nil =>
    obtain rfl := beq_iff_eq.1 hxs
    exact hys
  | cons t xs ih =>
    rw [staysWithin, Bool.and_eq_true] at hxs
    rw [List.cons_append, staysWithin, Bool.and_eq_true]
    exact ⟨hxs.1, ih hxs.2⟩

theorem staysWithin_flatMap {α : Type} {f : α → List Token} {xs : List α}
    (h : ∀ x ∈ xs, staysWithin 0 (f x) = true) : staysWithin 0 (xs.flatMap f) = true := by
  induction xs with
  | nil => rfl
  | cons x xs ih =>
    obtain ⟨hx, hxs⟩ := List.forall_mem_cons.1 h
    rw [List.flatMap_cons]
    exact staysWithin_append hx (ih hxs)

/-- An operator is none of other texts. -/
theorem isOperator_of_disjoint {t : Token} {texts others : List String}
    (h : t.isOperator texts = true) (hdisjoint : ∀ s ∈ texts, s ∉ others) :
    t.isOperator others = false := by
  rw [Token.isOperator, Bool.and_eq_true, List.contains_iff_mem] at h
  rw [Token.isOperator, List.contains_eq_mem, decide_eq_false (hdisjoint _ h.2), Bool.and_false]

/-- A token stays within a statement if it is no bracket and ends none. -/
theorem staysWithin_singleton {t : Token} (hkind : t.kind ≠ .newline)
    (hopeners : t.isOperator openers = false) (hclosers : t.isOperator closers = false)
    (hsemicolon : t.isOperator [";"] = false) : staysWithin 0 [t] = true := by
  simp [staysWithin, depthBehind, hkind, hopeners, hclosers, hsemicolon]

theorem staysWithin_of_ne {t : Token} (hnewline : t.kind ≠ .newline)
    (hoperator : t.kind ≠ .operator) : staysWithin 0 [t] = true :=
  staysWithin_singleton hnewline (isOperator_eq_false hoperator _)
    (isOperator_eq_false hoperator _) (isOperator_eq_false hoperator _)

theorem Header.IsFormed.staysWithin {h : Header} (hformed : h.IsFormed) :
    staysWithin 0 h.tokens = true := by
  have hkeyword : Flow.staysWithin 0 [h.keyword] = true :=
    staysWithin_of_ne (by simp [hformed.keyword_kind]) (by simp [hformed.keyword_kind])
  have hcolon : Flow.staysWithin 0 [h.colon] = true := by
    refine staysWithin_singleton ?_ ?_ ?_ ?_
    · simp [kind_of_isOperator hformed.colon]
    · exact isOperator_of_disjoint hformed.colon (by decide)
    · exact isOperator_of_disjoint hformed.colon (by decide)
    · exact isOperator_of_disjoint hformed.colon (by decide)
  exact staysWithin_append (staysWithin_append hkeyword hformed.condition) hcolon

theorem Statement.IsFormed.staysWithin_aims {s : Statement} (h : s.IsFormed) :
    staysWithin 0 (s.lead ++ s.aims) = true := by
  have hmargin : staysWithin 0 s.margin = true := by
    rw [← List.flatMap_singleton' s.margin]
    refine staysWithin_flatMap fun t ht => staysWithin_of_ne ?_ ?_
    all_goals
      intro hkind
      have hsilent := h.margin t ht
      rw [Token.carriesCode, hkind] at hsilent
      exact absurd hsilent nofun
  have hheader : staysWithin 0 ((s.header.map Header.tokens).getD []) = true := by
    cases hsome : s.header with
    | none => rfl
    | some header => exact (h.header header hsome).staysWithin
  have haims : staysWithin 0 s.aims = true := by
    refine staysWithin_flatMap fun target htarget => ?_
    obtain ⟨hsign, -⟩ := h.signs target htarget
    refine staysWithin_append (h.aims target htarget) (staysWithin_singleton ?_ ?_ ?_ ?_)
    · simp [kind_of_isOperator hsign]
    · exact isOperator_of_disjoint hsign (by decide)
    · exact isOperator_of_disjoint hsign (by decide)
    · exact isOperator_of_disjoint hsign (by decide)
  exact staysWithin_append (staysWithin_append hmargin hheader) haims

theorem Statement.IsFormed.staysWithin_body {s : Statement} (h : s.IsFormed) :
    staysWithin 0 s.body = true :=
  staysWithin_append h.staysWithin_aims h.value

/-! ### Statements one behind the other -/

theorem openBrackets_append {xs : List Token} (h : openBrackets xs = 0) (ys : List Token) :
    openBrackets (xs ++ ys) = openBrackets ys := by
  rw [openBrackets, List.foldl_append, ← openBrackets, h]
  rfl

theorem statementFrom_append (earlier statement xs ys : List Token) :
    statementFrom earlier statement (xs ++ ys) =
      statementFrom (earlier ++ xs) (statementFrom earlier statement xs) ys := by
  induction xs generalizing earlier statement with
  | nil => rw [List.nil_append, List.append_nil, statementFrom]
  | cons t xs ih => rw [List.cons_append, statementFrom, ih, statementFrom, ← List.append_cons]

/-- Tokens that stay within a statement are added to it. -/
theorem statementFrom_of_staysWithin {earlier ts : List Token} (statement : List Token)
    (h : staysWithin (openBrackets earlier) ts = true) :
    statementFrom earlier statement ts = statement ++ ts ∧ openBrackets (earlier ++ ts) = 0 := by
  induction ts generalizing earlier statement with
  | nil =>
    rw [statementFrom, List.append_nil, List.append_nil]
    exact ⟨rfl, beq_iff_eq.1 h⟩
  | cons t ts ih =>
    rw [staysWithin, Bool.and_eq_true, ← openBrackets_concat] at h
    have hgoes : endsStatement earlier t = false := by
      rw [endsStatement]
      simpa only [Bool.not_eq_true'] using h.1
    rw [statementFrom, hgoes, if_neg Bool.false_ne_true, List.append_cons earlier t ts,
      List.append_cons statement t ts]
    exact ih _ h.2

/-- Whether a statement begins behind some tokens. -/
def EndsBetween (earlier : List Token) : Prop := statementOf earlier = [] ∧ openBrackets earlier = 0

namespace Statement
variable {s : Statement}

theorem IsFormed.isOperator_ending (h : s.IsFormed) {texts : List String}
    (htexts : ";" ∉ texts) : s.ending.isOperator texts = false := by
  rcases h.ending with hkind | hop
  · exact isOperator_eq_false (by simp [hkind]) texts
  · exact isOperator_of_disjoint hop (by simpa using htexts)

theorem IsFormed.endsStatement_ending (h : s.IsFormed) {earlier : List Token}
    (hdepth : openBrackets earlier = 0) : endsStatement earlier s.ending = true := by
  rw [endsStatement, hdepth]
  rcases h.ending with hkind | hop
  · rw [hkind]
    rfl
  · rw [hop]
    exact Bool.or_true _

variable {earlier : List Token} (hearlier : EndsBetween earlier) (h : s.IsFormed)
include hearlier h

theorem statementOf_body : statementOf (earlier ++ s.body) = s.body ∧
    openBrackets (earlier ++ s.body) = 0 := by
  rw [statementOf, statementFrom_append, List.nil_append, ← statementOf, hearlier.1]
  exact statementFrom_of_staysWithin [] (hearlier.2 ▸ h.staysWithin_body)

/-- Within a statement it is what has been seen of it that goes on. -/
theorem statementOf_front {front behind : List Token} (hbody : s.body = front ++ behind) :
    statementOf (earlier ++ front) = front := by
  have hall : statementOf ((earlier ++ front) ++ behind) = front ++ behind := by
    rw [List.append_assoc, ← hbody]
    exact (statementOf_body hearlier h).1
  exact statementOf_of_append hall

/-- Behind a statement the next one begins. -/
theorem endsBetween_tokens : EndsBetween (earlier ++ s.tokens) := by
  obtain ⟨-, hdepth⟩ := statementOf_body hearlier h
  have hopeners : s.ending.isOperator openers = false := h.isOperator_ending (by decide)
  have hclosers : s.ending.isOperator closers = false := h.isOperator_ending (by decide)
  rw [tokens, ← List.append_assoc]
  constructor
  · rw [statementOf_concat, h.endsStatement_ending hdepth, if_pos rfl]
  · rw [openBrackets_concat, hdepth, depthBehind, hopeners, hclosers]
    rfl

/-- No statement goes on over the end of another. -/
theorem statementOf_ne_over {front behind beyond : List Token} {t : Token}
    (hbody : s.body = front ++ t :: behind) :
    statementOf (earlier ++ front ++ t :: (behind ++ s.ending :: beyond)) ≠
      front ++ t :: (behind ++ s.ending :: beyond) := by
  have hsplit : earlier ++ front ++ t :: (behind ++ s.ending :: beyond) =
      (earlier ++ s.tokens) ++ beyond := by
    simp [tokens, hbody]
  intro hgoes
  have hlength := congrArg List.length hgoes
  rw [hsplit, List.length_append, List.length_cons, List.length_append, List.length_cons]
    at hlength
  rcases statementOf_append (earlier ++ s.tokens) beyond with hbeyond | hbeyond
  · rw [hbeyond, (endsBetween_tokens hearlier h).1, List.nil_append] at hlength
    omega
  · omega

/-- A token of a statement is seen as a target in front of `:=`, or outside of brackets in front of
    another sign of assignment of the same statement. -/
theorem isTarget_iff {front behind later : List Token} {t : Token}
    (hbody : s.body = front ++ t :: behind) :
    IsTarget (earlier ++ front) t (behind ++ s.ending :: later) ↔
      (∃ op more, behind = op :: more ∧ op.isOperator [":="] = true) ∨
        (openBrackets front = 0 ∧ ∃ middle sign more, behind = middle ++ sign :: more ∧
          sign.isOperator assignments = true ∧ sign.is ":=" = false ∧
            openBrackets (front ++ t :: middle) = 0) := by
  have hdepth (ts : List Token) : openBrackets (earlier ++ ts) = openBrackets ts :=
    openBrackets_append hearlier.2 ts
  have hassign : s.ending.isOperator assignments = false := h.isOperator_ending (by decide)
  unfold IsTarget
  rw [statementOf_front hearlier h hbody]
  constructor
  · rintro (⟨op, rest, hlater, hop⟩ |
      ⟨middle, op, rest, hlater, hop, hother, hclosed, hgoes, houtside⟩)
    · cases behind with
      | nil =>
        obtain ⟨rfl, -⟩ := List.cons.inj hlater
        rw [h.isOperator_ending (by decide)] at hop
        exact absurd hop nofun
      | cons next more =>
        obtain ⟨rfl, -⟩ := List.cons.inj hlater
        exact Or.inl ⟨next, more, rfl, hop⟩
    · -- the sign stands in front of the ending, is the ending, or stands behind it
      refine Or.inr ⟨houtside, ?_⟩
      rcases List.append_eq_append_iff.1 hlater with ⟨beyond, rfl, hbeyond⟩ | ⟨more, rfl, hmore⟩
      · cases beyond with
        | nil =>
          obtain ⟨rfl, -⟩ := List.cons.inj hbeyond
          rw [hassign] at hop
          exact absurd hop nofun
        | cons ending beyond =>
          obtain ⟨rfl, -⟩ := List.cons.inj hbeyond
          exact absurd hgoes (statementOf_ne_over hearlier h hbody)
      · cases more with
        | nil =>
          obtain ⟨rfl, -⟩ := List.cons.inj hmore
          rw [hassign] at hop
          exact absurd hop nofun
        | cons sign more =>
          obtain ⟨rfl, -⟩ := List.cons.inj hmore
          rw [List.append_assoc, hdepth] at hclosed
          exact ⟨middle, op, more, rfl, hop, hother, hclosed⟩
  · -- what stands in the body stands in front of the ending, with the same brackets open
    rintro (⟨op, more, rfl, hop⟩ | ⟨houtside, middle, sign, more, rfl, hop, hother, hclosed⟩)
    · exact Or.inl ⟨op, _, rfl, hop⟩
    · refine Or.inr ⟨middle, sign, more ++ s.ending :: later, ?_, hop, hother, ?_, ?_, houtside⟩
      · rw [List.append_assoc, List.cons_append]
      · rw [List.append_assoc, hdepth, hclosed]
      · have hbehind : s.body = (front ++ t :: middle) ++ sign :: more := by
          rw [hbody, List.append_assoc, List.cons_append]
        rw [List.append_assoc, statementOf_front hearlier h hbehind]

end Statement

/-! ### Statements that only read -/

/-- What is said of every item between those in front of it and those behind it can be checked item
    by item. -/
instance decidableForallSplit {α : Type} : (xs : List α) → (P : List α → α → List α → Prop) →
    [∀ front t rest, Decidable (P front t rest)] →
      Decidable (∀ front t rest, xs = front ++ t :: rest → P front t rest)
  | [], _, _ => .isTrue fun _ _ _ hsplit => absurd hsplit (by simp)
  | x :: xs, P, _ =>
    have := decidableForallSplit xs fun front t rest => P (x :: front) t rest
    decidable_of_iff' _ forall_split_cons

namespace Statement

/-- Whether what stands behind the front of a statement is read: it stands in the header or in the
    value. -/
def ReadsBehind (s : Statement) (front : List Token) : Prop :=
  front.length < s.lead.length ∨ s.lead.length + s.aims.length ≤ front.length

instance (s : Statement) (front : List Token) : Decidable (s.ReadsBehind front) :=
  inferInstanceAs (Decidable (_ ∨ _))

/-- Whether a statement between others only reads the layers that it names: none stands directly in
    front of `:=`, and none is a target, though a member or an item of a layer may be one. -/
def ReadsOnly (attributes : List String) (earlier : List Token) (s : Statement)
    (later : List Token) : Prop :=
  ∀ front t behind, s.body = front ++ t :: behind →
    isBare attributes (earlier ++ front) t (behind ++ s.ending :: later) = true →
      behind.head?.any (·.isOperator [":="]) = false ∧
        (s.ReadsBehind front ∨ openBrackets front ≠ 0)

instance (attributes : List String) (earlier : List Token) (s : Statement) (later : List Token) :
    Decidable (s.ReadsOnly attributes earlier later) :=
  inferInstanceAs (Decidable (∀ front t behind, s.body = front ++ t :: behind →
    isBare attributes (earlier ++ front) t (behind ++ s.ending :: later) = true →
      behind.head?.any (·.isOperator [":="]) = false ∧
        (s.ReadsBehind front ∨ openBrackets front ≠ 0)))

/-- Whether the check takes a layer that a statement reads for a target: the layer itself stands
    outside of brackets in the header or in the value, and a sign of assignment outside of brackets
    comes behind it. -/
def Misleads (attributes : List String) (earlier : List Token) (s : Statement)
    (later : List Token) : Prop :=
  ∃ front t middle sign more, s.body = front ++ t :: (middle ++ sign :: more) ∧
    s.ReadsBehind front ∧
    isBare attributes (earlier ++ front) t (middle ++ sign :: more ++ s.ending :: later) = true ∧
    openBrackets front = 0 ∧ openBrackets (front ++ t :: middle) = 0 ∧
    sign.isOperator assignments = true ∧ sign.is ":=" = false

theorem misleads_iff {attributes : List String} {s : Statement} {earlier later : List Token}
    (hearlier : EndsBetween earlier) (h : s.IsFormed)
    (hreads : s.ReadsOnly attributes earlier later) :
    s.Misleads attributes earlier later ↔
      ∃ front t behind, s.body = front ++ t :: behind ∧
        Rebinds attributes (earlier ++ front) t (behind ++ s.ending :: later) := by
  constructor
  · rintro ⟨front, t, middle, sign, more, hbody, -, hbare, houtside, hclosed, hop, hother⟩
    refine ⟨front, t, _, hbody, hbare, (isTarget_iff hearlier h hbody).2 (Or.inr ⟨houtside, ?_⟩)⟩
    exact ⟨middle, sign, more, rfl, hop, hother, hclosed⟩
  · rintro ⟨front, t, behind, hbody, hbare, htarget⟩
    obtain ⟨hwalrus, hplace⟩ := hreads front t behind hbody hbare
    rcases (isTarget_iff hearlier h hbody).1 htarget with ⟨op, more, hbehind, hop⟩ |
      ⟨houtside, middle, sign, more, rfl, hop, hother, hclosed⟩
    · rw [hbehind, List.head?_cons, Option.any_some, hop] at hwalrus
      exact absurd hwalrus nofun
    · refine ⟨front, t, middle, sign, more, hbody, ?_, hbare, houtside, hclosed, hop, hother⟩
      exact hplace.resolve_right (not_not_intro houtside)

end Statement

section splits
variable {α : Type} {P : List α → α → List α → Prop}

theorem exists_split_cons {x : α} {xs : List α} :
    (∃ front t rest, x :: xs = front ++ t :: rest ∧ P front t rest) ↔
      P [] x xs ∨ ∃ front t rest, xs = front ++ t :: rest ∧ P (x :: front) t rest := by
  constructor
  · rintro ⟨front, t, rest, hsplit, hp⟩
    cases front with
    | nil =>
      obtain ⟨rfl, rfl⟩ := List.cons.inj hsplit
      exact Or.inl hp
    | cons y front =>
      obtain ⟨rfl, hbehind⟩ := List.cons.inj hsplit
      exact Or.inr ⟨front, t, rest, hbehind, hp⟩
  · rintro (hp | ⟨front, t, rest, rfl, hp⟩)
    · exact ⟨[], x, xs, rfl, hp⟩
    · exact ⟨x :: front, t, rest, rfl, hp⟩

theorem exists_split_append {xs ys : List α} :
    (∃ front t rest, xs ++ ys = front ++ t :: rest ∧ P front t rest) ↔
      (∃ front t rest, xs = front ++ t :: rest ∧ P front t (rest ++ ys)) ∨
        ∃ front t rest, ys = front ++ t :: rest ∧ P (xs ++ front) t rest := by
  induction xs generalizing P with
  | nil => simp
  | cons x xs ih => rw [List.cons_append, exists_split_cons, exists_split_cons, ih, or_assoc]; rfl

end splits

/-- What stands behind the tokens of a statement is either in it, or its ending, or behind it. -/
theorem exists_rebinds_tokens {attributes : List String} {s : Statement} (h : s.IsFormed)
    {earlier ts : List Token} :
    (∃ front t later, s.tokens ++ ts = front ++ t :: later ∧
        Rebinds attributes (earlier ++ front) t later) ↔
      (∃ front t behind, s.body = front ++ t :: behind ∧
        Rebinds attributes (earlier ++ front) t (behind ++ s.ending :: ts)) ∨
      ∃ front t later, ts = front ++ t :: later ∧
        Rebinds attributes (earlier ++ s.tokens ++ front) t later := by
  have hending : ¬Rebinds attributes (earlier ++ s.body) s.ending ts := by
    rintro ⟨hbare, -⟩
    have hname := kind_of_isBare hbare
    rcases h.ending with hkind | hop
    · exact absurd (hkind.symm.trans hname) nofun
    · exact absurd ((kind_of_isOperator hop).symm.trans hname) nofun
  rw [Statement.tokens, List.append_assoc, List.singleton_append, exists_split_append,
    exists_split_cons, List.append_nil]
  simp only [hending, false_or, List.append_assoc, List.singleton_append]

/-- Statements one behind the other, with marks of the layout at the end, that only read the layers
    they name. -/
structure OnlyRead (attributes : List String) (earlier : List Token) (statements : List Statement)
    (rest : List Token) : Prop where
  formed : ∀ s ∈ statements, s.IsFormed
  layout : ∀ t ∈ rest, t.kind ≠ .name
  reads : ∀ before s after, statements = before ++ s :: after →
    s.ReadsOnly attributes (earlier ++ before.flatMap Statement.tokens)
      (after.flatMap Statement.tokens ++ rest)

/-- Whether one of the statements misleads the check. -/
def AnyMisleads (attributes : List String) (earlier : List Token) (statements : List Statement)
    (rest : List Token) : Prop :=
  ∃ before s after, statements = before ++ s :: after ∧
    s.Misleads attributes (earlier ++ before.flatMap Statement.tokens)
      (after.flatMap Statement.tokens ++ rest)

/-- In statements that only read layers, one is rebound exactly if a statement misleads the
    check. -/
theorem rebinds_iff_misleads {attributes : List String} {statements : List Statement}
    {earlier rest : List Token} (hearlier : EndsBetween earlier)
    (h : OnlyRead attributes earlier statements rest) :
    (∃ front t later, statements.flatMap Statement.tokens ++ rest = front ++ t :: later ∧
        Rebinds attributes (earlier ++ front) t later) ↔
      AnyMisleads attributes earlier statements rest := by
  induction statements generalizing earlier with
  | nil =>
    constructor
    · rintro ⟨front, t, later, hsplit, hbare, -⟩
      have hmem : t ∈ rest := by
        rw [List.flatMap_nil, List.nil_append] at hsplit
        simp [hsplit]
      exact absurd (kind_of_isBare hbare) (h.layout t hmem)
    · rintro ⟨before, s, after, hsplit, -⟩
      exact absurd hsplit (by simp)
  | cons s statements ih =>
    obtain ⟨hs, hmore⟩ := List.forall_mem_cons.1 h.formed
    obtain ⟨hfirst, hlater⟩ := forall_split_cons.1 h.reads
    rw [List.flatMap_nil, List.append_nil] at hfirst
    simp only [List.flatMap_cons, ← List.append_assoc] at hlater
    rw [List.flatMap_cons, List.append_assoc, exists_rebinds_tokens hs, AnyMisleads,
      exists_split_cons, List.flatMap_nil, List.append_nil,
      Statement.misleads_iff hearlier hs hfirst,
      ih (Statement.endsBetween_tokens hearlier hs) ⟨hmore, h.layout, hlater⟩, AnyMisleads]
    simp only [List.flatMap_cons, List.append_assoc]

/-- A data flow of statements that only read layers is refused for an assignment to one only if a
    statement misleads the check, and then it is so refused unless a layer is missing. -/
theorem bind_eq_error_misleads {attributes : List String} {dataFlow : String}
    {statements : List Statement} {rest : List Token}
    (hts : tokens (normalLines dataFlow) = .ok (statements.flatMap Statement.tokens ++ rest))
    (h : OnlyRead attributes [] statements rest) :
    ((∃ name line, bind attributes dataFlow = .error (.assignsLayer name line)) →
      AnyMisleads attributes [] statements rest) ∧
    (AnyMisleads attributes [] statements rest →
      (∀ earlier t later, statements.flatMap Statement.tokens ++ rest = earlier ++ t :: later →
        ¬MissesLayer attributes earlier t later) →
          ∃ name line, bind attributes dataFlow = .error (.assignsLayer name line)) := by
  have hiff := rebinds_iff_misleads (show EndsBetween [] from ⟨rfl, rfl⟩) h
  simp only [List.nil_append] at hiff
  rw [← hiff]
  exact bind_eq_error_assigns hts

/-- A statement without a header misleads the check only by a sign of assignment in its value. -/
theorem Statement.not_misleads {attributes : List String} {s : Statement}
    {earlier later : List Token} (h : s.IsFormed) (hheader : s.header = none)
    (hvalue : ∀ front t rest, s.value = front ++ t :: rest → openBrackets front = 0 →
      t.isOperator assignments = false) : ¬s.Misleads attributes earlier later := by
  rintro ⟨front, t, middle, sign, more, hbody, hplace, hbare, -, hclosed, hop, -⟩
  rcases hplace with hlead | hbehind
  · -- there is nothing in front of the targets but what carries no code
    have hmem : t ∈ s.margin := by
      have hall : front ++ t :: (middle ++ sign :: more) = s.margin ++ (s.aims ++ s.value) := by
        rw [← hbody, body, lead, hheader, Option.map_none, Option.getD_none, List.append_nil,
          List.append_assoc]
      rw [lead, hheader, Option.map_none, Option.getD_none, List.append_nil] at hlead
      have hget := congrArg (·[front.length]?) hall
      simp only [List.getElem?_append_right (Nat.le_refl _), Nat.sub_self, List.getElem?_cons_zero,
        List.getElem?_append_left hlead] at hget
      exact List.mem_of_getElem? hget.symm
    have hsilent := h.margin t hmem
    rw [Token.carriesCode, kind_of_isBare hbare] at hsilent
    exact absurd hsilent nofun
  · rw [← List.length_append] at hbehind
    obtain ⟨inner, rfl, hvalues⟩ : ∃ inner, front = (s.lead ++ s.aims) ++ inner ∧
        s.value = inner ++ t :: (middle ++ sign :: more) := by
      rcases List.append_eq_append_iff.1 hbody with hbehind | ⟨inner, hinner, hrest⟩
      · exact hbehind
      · obtain rfl : inner = [] := by
          rw [hinner, List.length_append] at hbehind
          exact List.eq_nil_of_length_eq_zero (by omega)
        rw [List.append_nil] at hinner
        exact ⟨[], by rw [List.append_nil, hinner], hrest.symm⟩
    have haims : openBrackets (s.lead ++ s.aims) = 0 :=
      (@statementFrom_of_staysWithin [] _ [] h.staysWithin_aims).2
    rw [List.append_assoc, openBrackets_append haims] at hclosed
    have hsign := hvalue (inner ++ t :: middle) sign more (by simp [hvalues]) hclosed
    rw [hsign] at hop
    exact absurd hop nofun

end LayerGraph.Flow
