import LayerGraph.Proofs.Flow.Names
import LayerGraph.Proofs.Flow.Rebinding

/-! # Walking over names

    What the walk over tokens does where no operator stands. It refers to a layer at each name of
    one (`references_of_isInert`), as long as no point and no sign of assignment stands around the
    names. In front of a sign of assignment the first of them is seen as a target
    (`rebound?_placesOf`).
-/

namespace LayerGraph.Flow

/-- Whether a token is a name of a layer. -/
def Token.isLayer (attributes : List String) (t : Token) : Bool :=
  t.kind == .name && attributes.contains t.string

/-- Whether what comes next is none of some operators. -/
def NextIsNot (ops : List String) (ts : List Token) : Prop :=
  ∀ t ∈ (codeAhead ts).head?, t.string ∉ ops

/-- Whether what comes before is no point. -/
def BeforeIsNoPoint (before? : Option Token) : Prop := ∀ t ∈ before?, t.is "." = false

namespace Place
variable {p : Place}

theorem isMember_eq_false (h : BeforeIsNoPoint p.before?) : p.isMember = false := by
  unfold isMember
  cases hbefore : p.before? with
  | none => rfl
  | some t => exact h t hbefore

theorem isFollowedBy_eq_false {ops : List String} (h : ∀ t ∈ p.after.head?, t.string ∉ ops) :
    p.isFollowedBy ops = false := by
  unfold isFollowedBy
  cases hafter : p.after.head? with
  | none => rfl
  | some t => simpa using h t hafter

end Place

namespace Token.IsInert
variable {t : Token} (h : t.IsInert)
include h

/-- A token that is no operator has the text of none. -/
theorem is_eq_false (op : String) (hop : op ∈ operators) : t.is op = false := by
  rw [Token.is_eq]
  refine beq_false_of_ne fun hsame => h.operator ?_
  rwa [hsame]

theorem isOperator_eq_false (ops : List String) (hops : ops ⊆ operators) :
    t.isOperator ops = false := by
  have hno : ops.contains t.string = false :=
    Bool.eq_false_iff.2 fun hmem => h.operator (hops (List.contains_iff_mem.1 hmem))
  rw [Token.isOperator, hno, Bool.and_false]

theorem codeAhead_cons (later : List Token) : codeAhead (t :: later) = t :: later := by
  rw [codeAhead, List.dropWhile_cons_of_neg]
  simp [h.code]

end Token.IsInert

theorem NextIsNot.append {ops : List String} (hops : ops ⊆ operators) {ts later : List Token}
    (hts : ∀ t ∈ ts, t.IsInert) (h : NextIsNot ops later) : NextIsNot ops (ts ++ later) := by
  cases ts with
  | nil => exact h
  | cons t ts =>
    have ht := hts t List.mem_cons_self
    rw [List.cons_append, NextIsNot, ht.codeAhead_cons]
    rintro _ ⟨⟩ hmem
    exact ht.operator (hops hmem)

theorem Walk.start_depth : Walk.start.depth = 0 := rfl

/-- What is found first stands in front of what is found then. -/
theorem map_append_map_append (xs ys : List Token) (found : Except Reason (List Token)) :
    (xs ++ ·) <$> (ys ++ ·) <$> found = (xs ++ ys ++ ·) <$> found := by
  cases found with
  | error reason => rfl
  | ok names => exact congrArg Except.ok (List.append_assoc ..).symm

theorem map_nil_append (found : Except Reason (List Token)) : ([] ++ ·) <$> found = found := by
  cases found <;> rfl

section walk
variable {attributes : List String}

/-- An operator that is a word of other characters moves nothing. -/
theorem stepOperator_of_isInert {w : Walk} {p : Place} (h : p.token.IsInert) :
    stepOperator attributes w p = .ok (w.push p) := by
  have hsemicolon := h.is_eq_false ";" (by decide)
  have hwalrus := h.is_eq_false ":=" (by decide)
  have hopeners := h.isOperator_eq_false openers (by decide)
  have hclosers := h.isOperator_eq_false closers (by decide)
  have hassignments := h.isOperator_eq_false assignments (by decide)
  simp [stepOperator, hsemicolon, hwalrus, hopeners, hclosers, hassignments]

/-- In front of what is no point nothing is referred to through a name. -/
theorem checkReference_of_head? {p : Place} (hpoint : ∀ t ∈ p.after.head?, t.string ∉ ["."]) :
    checkReference attributes p = .ok () := by
  unfold checkReference
  cases hafter : p.after with
  | nil => rfl
  | cons point rest =>
    have hno : point.is "." = false := by
      rw [Token.is_eq]
      simpa using hpoint point (by rw [hafter]; rfl)
    dsimp only
    split
    · rfl
    · rw [hno, Bool.false_and, Bool.false_and, if_neg Bool.false_ne_true]

variable (hself : "self" ∉ attributes)
include hself

/-- A token that is no operator, between tokens that are no points, is a reference if it is a name
    of a layer, unless it names an argument. -/
theorem references_cons_of_isInert {w : Walk} {before? : Option Token} {t : Token}
    {later : List Token} {rest : List Place} (h : t.IsInert) (hbefore : BeforeIsNoPoint before?)
    (hpoint : NextIsNot ["."] later) (hargument : w.depth = 0 ∨ NextIsNot ["="] later) :
    references attributes w (⟨t, before?, codeAhead later⟩ :: rest) =
      ([t].filter (·.isLayer attributes) ++ ·) <$>
        references attributes (w.push ⟨t, before?, codeAhead later⟩) rest := by
  let p : Place := ⟨t, before?, codeAhead later⟩
  have hkeep (hname : t.kind ≠ .name) : [t].filter (·.isLayer attributes) = [] := by
    simp [Token.isLayer, hname]
  rw [references]
  split
  · next hkind => exact absurd hkind h.newline
  · next hkind =>
    have hstep : stepOperator attributes w p = .ok (w.push p) := stepOperator_of_isInert h
    rw [hstep, hkeep (by simp [show t.kind = .operator from hkind]), map_nil_append]
    rfl
  · next hkind =>
    have hrefers : refersToLayer attributes w p = t.isLayer attributes := by
      have hmember : p.isMember = false := Place.isMember_eq_false hbefore
      have hnamed : (decide (0 < w.depth) && p.isFollowedBy ["="]) = false := by
        rcases hargument with hdepth | hargument
        · simp [hdepth]
        · rw [@Place.isFollowedBy_eq_false p _ hargument, Bool.and_false]
      have hother : (attributes.contains t.string && !t.is "self") =
          attributes.contains t.string := by
        rw [Token.is_eq]
        by_cases hsame : t.string = "self"
        · simp [hsame, hself]
        · simp [hsame]
      have hname : t.kind = .name := hkind
      rw [refersToLayer, hmember, hnamed, Token.isLayer, hname, Bool.not_false, Bool.and_true,
        Bool.and_true, hother]
      rfl
    have hcheck : checkReference attributes p = .ok () := checkReference_of_head? hpoint
    rw [hcheck, hrefers, List.filter_cons]
    -- whether the name is `self` makes no difference
    generalize references attributes (w.push p) rest = walked
    generalize (p.token.is "self" && !p.isMember) = isSelf
    cases t.isLayer attributes <;> cases walked <;> cases isSelf <;> rfl
  · next hnewline hoperator hname =>
    rw [hkeep hname, map_nil_append]

/-- The places of tokens that carry code, in front of others. -/
def placesOf (before? : Option Token) (later : List Token) : List Token → List Place
  | [] => []
  | t :: ts => ⟨t, before?, codeAhead (ts ++ later)⟩ :: placesOf (some t) later ts

/-- The walk over tokens that are no operators finds the names of layers among them. -/
theorem references_of_isInert {w : Walk} {before? : Option Token} {ts later : List Token}
    (hts : ∀ t ∈ ts, t.IsInert) (hbefore : BeforeIsNoPoint before?)
    (hpoint : NextIsNot ["."] later) (hargument : w.depth = 0 ∨ NextIsNot ["="] later) :
    references attributes w (places before? (ts ++ later)) =
      (ts.filter (·.isLayer attributes) ++ ·) <$>
        references attributes
          { w with statement := (placesOf before? later ts).reverse ++ w.statement }
          (places (ts.getLast?.or before?) later) := by
  induction ts generalizing w before? with
  | nil => exact (map_nil_append _).symm
  | cons t ts ih =>
    obtain ⟨ht, hmore⟩ := List.forall_mem_cons.1 hts
    have hplaces : places before? (t :: ts ++ later) =
        ⟨t, before?, codeAhead (ts ++ later)⟩ :: places (some t) (ts ++ later) := by
      rw [List.cons_append, places, if_pos ht.code]
    have hnext : BeforeIsNoPoint (some t) := by
      rintro _ ⟨⟩
      exact ht.is_eq_false "." (by decide)
    have hlast : (t :: ts).getLast?.or before? = ts.getLast?.or (some t) := by
      rw [List.getLast?_cons]
      cases ts.getLast? <;> rfl
    let next := w.push ⟨t, before?, codeAhead (ts ++ later)⟩
    have hwalk : (placesOf before? later (t :: ts)).reverse ++ w.statement =
        (placesOf (some t) later ts).reverse ++ next.statement := by
      rw [placesOf, List.reverse_cons, List.append_assoc]
      rfl
    -- an inert token leaves the depth as it is, so the induction applies to `next`
    have hrest := ih hmore hnext (show next.depth = 0 ∨ NextIsNot ["="] later from hargument)
    have hfilter : (t :: ts).filter (·.isLayer attributes) =
        [t].filter (·.isLayer attributes) ++ ts.filter (·.isLayer attributes) := by
      rw [← List.filter_append]
      rfl
    rw [hplaces, references_cons_of_isInert hself ht hbefore (hpoint.append (by decide) hmore)
      (hargument.imp_right (·.append (by decide) hmore)), hrest, map_append_map_append, hlast,
      hwalk, hfilter]
    rfl

omit hself in
/-- Of tokens that are no operators the first name of a layer is seen as a target. -/
theorem rebound?_placesOf {before? : Option Token} {ts later : List Token}
    (hts : ∀ t ∈ ts, t.IsInert) (hbefore : BeforeIsNoPoint before?)
    (hlater : NextIsNot [".", "[", "("] later) :
    rebound? attributes 0 (placesOf before? later ts) =
      (ts.find? (·.isLayer attributes)).map fun t => (t.string, t.line) := by
  induction ts generalizing before? with
  | nil => rfl
  | cons t ts ih =>
    obtain ⟨ht, hmore⟩ := List.forall_mem_cons.1 hts
    have hnext : BeforeIsNoPoint (some t) := by
      rintro _ ⟨⟩
      exact ht.is_eq_false "." (by decide)
    let p : Place := ⟨t, before?, codeAhead (ts ++ later)⟩
    have hmember : p.isMember = false := Place.isMember_eq_false hbefore
    have hfollowed : p.isFollowedBy [".", "[", "("] = false :=
      Place.isFollowedBy_eq_false (hlater.append (by decide) hmore)
    have hopeners := ht.isOperator_eq_false openers (by decide)
    have hclosers := ht.isOperator_eq_false closers (by decide)
    have hlayer : (decide (t.kind = .name) && attributes.contains t.string && (0 : Nat) == 0 &&
        !p.isMember && !p.isFollowedBy [".", "[", "("]) = t.isLayer attributes := by
      rw [hmember, hfollowed, Bool.eq_iff_iff]
      simp [Token.isLayer]
    rw [placesOf, rebound?, List.find?_cons]
    simp only [hopeners, hclosers, Bool.false_eq_true, if_false]
    rw [hlayer]
    cases t.isLayer attributes with
    | true => rfl
    | false => exact ih hmore hnext

end walk

end LayerGraph.Flow
