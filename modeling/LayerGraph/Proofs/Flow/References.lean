import LayerGraph.Proofs.Flow.Lines

/-! # References

    Which names of a data flow refer to layers, said of a token between the tokens in front of it
    and those behind it. The walk over the tokens finds exactly these (`references_eq`), and since
    no two names stand at the same place, `self.` in front of their places is `self.` in front of
    them (`flatMap_isNameAmong`).
-/

namespace LayerGraph.Flow

/-! ### What a reference is -/

/-- How many brackets are open behind a token, counted from zero. -/
def depthBehind (depth : Nat) (t : Token) : Nat :=
  if t.isOperator openers then depth + 1
  else if t.isOperator closers then depth - 1
  else depth

/-- How many brackets are open behind some tokens, counted from zero. -/
def openBrackets (ts : List Token) : Nat := ts.foldl depthBehind 0

/-- The nearest of the tokens in front that carries code. -/
def previous? (earlier : List Token) : Option Token := earlier.reverse.find? (·.carriesCode)

/-- The nearest of the tokens behind that carries code. -/
def following? (later : List Token) : Option Token := later.find? (·.carriesCode)

/-- Whether a token between others is a name that refers to a layer: it has the name of an
    attribute, does not stand behind a point, and does not name an argument of a call. -/
def isReference (attributes : List String) (earlier : List Token) (t : Token)
    (later : List Token) : Bool :=
  t.kind == .name && attributes.contains t.string
    && !(previous? earlier).any (·.is ".")
    && !(decide (0 < openBrackets earlier) && (following? later).any (·.is "="))

/-- The references among tokens behind others. -/
def referencesIn (attributes : List String) (earlier : List Token) : List Token → List Token
  | [] => []
  | t :: later =>
    (if isReference attributes earlier t later then [t] else []) ++
      referencesIn attributes (earlier ++ [t]) later

/-- The contents of tokens behind others, with `self.` in front of the references. -/
def boundContents (attributes : List String) (earlier : List Token) :
    List Token → List (TokenKind × List Char)
  | [] => []
  | t :: later =>
    t.expansion (isReference attributes earlier t later) ++
      boundContents attributes (earlier ++ [t]) later

/-! ### One more token -/

theorem openBrackets_concat (earlier : List Token) (t : Token) :
    openBrackets (earlier ++ [t]) = depthBehind (openBrackets earlier) t := by
  rw [openBrackets, List.foldl_append]
  rfl

theorem previous?_concat (earlier : List Token) (t : Token) :
    previous? (earlier ++ [t]) = if t.carriesCode then some t else previous? earlier := by
  rw [previous?, List.reverse_append, List.reverse_singleton, List.singleton_append,
    List.find?_cons]
  cases t.carriesCode <;> rfl

theorem head?_codeAhead (later : List Token) : (codeAhead later).head? = following? later := by
  induction later with
  | nil => rfl
  | cons t later ih =>
    rw [codeAhead, following?, List.dropWhile_cons, List.find?_cons]
    cases t.carriesCode with
    | true => rfl
    | false => exact ih

theorem depthBehind_of_ne {t : Token} (h : t.kind ≠ .operator) (depth : Nat) :
    depthBehind depth t = depth := by
  have hno (texts : List String) : t.isOperator texts = false := by
    rw [Token.isOperator, decide_eq_false h, Bool.false_and]
  rw [depthBehind, hno, hno]
  rfl

theorem isReference_of_ne {attributes : List String} {earlier later : List Token} {t : Token}
    (h : t.kind ≠ .name) : isReference attributes earlier t later = false := by
  rw [isReference, beq_false_of_ne h, Bool.false_and, Bool.false_and, Bool.false_and]

theorem kind_of_isReference {attributes : List String} {earlier later : List Token} {t : Token}
    (h : isReference attributes earlier t later = true) : t.kind = .name := by
  rw [← Decidable.not_not (p := t.kind = .name)]
  intro hkind
  rw [isReference_of_ne hkind] at h
  exact absurd h nofun

/-! ### The walk -/

/-- An operator moves the walk to the count of brackets behind it. -/
theorem depth_of_stepOperator {attributes : List String} {w next : Walk} {p : Place}
    (h : stepOperator attributes w p = .ok next) :
    next.depth = depthBehind w.depth p.token := by
  unfold stepOperator at h
  simp only at h
  unfold depthBehind
  -- brackets come first; nothing that is asked of other operators counts
  split at h
  · next hopen =>
    rw [if_pos hopen, ← Except.ok.inj h]
  next hopen =>
  rw [if_neg hopen]
  split at h
  · next hclose =>
    rw [if_pos hclose, ← Except.ok.inj h]
  next hclose =>
  rw [if_neg hclose]
  split at h
  · rw [← Except.ok.inj h]
  split at h
  · obtain ⟨_, _, h⟩ := Result.bind_eq_ok.1 h
    rw [← Except.ok.inj h]
    rfl
  split at h
  · obtain ⟨_, _, h⟩ := Result.bind_eq_ok.1 h
    rw [← Except.ok.inj h]
    rfl
  · rw [← Except.ok.inj h]
    rfl

theorem Token.is_eq (t : Token) (text : String) : t.is text = (t.string == text) := by
  rw [Bool.eq_iff_iff, Token.is, beq_iff_eq, beq_iff_eq, Token.string]
  constructor
  · intro h
    rw [h, String.ofList_toList]
  · rintro rfl
    rw [String.toList_ofList]

section walk
variable {attributes : List String} (hattributes : "self" ∉ attributes)
include hattributes

/-- The walk asks of a name what makes it a reference. -/
theorem refersToLayer_eq {w : Walk} {earlier later : List Token} {t : Token}
    (hdepth : w.depth = openBrackets earlier) (hname : t.kind = .name) :
    refersToLayer attributes w ⟨t, previous? earlier, codeAhead later⟩ =
      isReference attributes earlier t later := by
  have hmember : Place.isMember ⟨t, previous? earlier, codeAhead later⟩ =
      (previous? earlier).any (·.is ".") := by
    rw [Place.isMember]
    cases previous? earlier <;> rfl
  have hfollowed : Place.isFollowedBy ⟨t, previous? earlier, codeAhead later⟩ ["="] =
      (following? later).any (·.is "=") := by
    rw [Place.isFollowedBy, head?_codeAhead]
    cases following? later with
    | none => rfl
    | some next =>
      show ["="].contains next.string = next.is "="
      rw [Token.is_eq, List.contains_cons, List.contains_nil, Bool.or_false]
  have hself : (attributes.contains t.string && !t.is "self") = attributes.contains t.string := by
    rw [Token.is_eq]
    by_cases hsame : t.string = "self"
    · have hnot : attributes.contains "self" = false :=
        Bool.eq_false_iff.2 fun h => hattributes (List.contains_iff_mem.1 h)
      rw [hsame, hnot, Bool.false_and]
    · rw [beq_false_of_ne hsame, Bool.not_false, Bool.and_true]
  -- `self` is no attribute, so asking for it makes no difference
  rw [refersToLayer, isReference, hmember, hfollowed, hdepth, hname]
  show (attributes.contains t.string && _ && !t.is "self" && _) = _
  rw [Bool.and_right_comm (attributes.contains t.string), hself]
  rfl

/-- The walk finds the references, in order. -/
theorem references_eq {ts names : List Token} {w : Walk} {earlier : List Token}
    (h₀ : w.depth = openBrackets earlier)
    (h : references attributes w (places (previous? earlier) ts) = .ok names) :
    names = referencesIn attributes earlier ts := by
  induction ts generalizing w earlier names with
  | nil => exact (Except.ok.inj h).symm
  | cons t later ih =>
    -- what is no name is no reference; it only moves the walk
    have hother {w' : Walk} (hkind : t.kind ≠ .name)
        (h : references attributes w' (places (previous? (earlier ++ [t])) later) = .ok names)
        (hdepth : w'.depth = depthBehind w.depth t) :
        names = referencesIn attributes earlier (t :: later) := by
      rw [referencesIn, isReference_of_ne hkind]
      refine ih ?_ h
      rw [hdepth, h₀, openBrackets_concat]
    rw [places, ← previous?_concat, references] at h
    simp only at h
    split at h
    · next hkind => exact hother (by simp [hkind]) h (depthBehind_of_ne (by simp [hkind]) _).symm
    · next hkind =>
      obtain ⟨next, hnext, h⟩ := Result.bind_eq_ok.1 h
      exact hother (by simp [hkind]) h (depth_of_stepOperator hnext)
    · next hkind =>
      obtain ⟨others, hothers, hnames⟩ : ∃ others,
          references attributes (w.push ⟨t, previous? earlier, codeAhead later⟩)
            (places (previous? (earlier ++ [t])) later) = .ok others ∧
          (if refersToLayer attributes w ⟨t, previous? earlier, codeAhead later⟩ = true then
            t :: others else others) = names := by
        split at h
        · obtain ⟨_, _, h⟩ := Result.bind_eq_ok.1 h
          obtain ⟨others, hothers, h⟩ := Result.bind_eq_ok.1 h
          exact ⟨others, hothers, Except.ok.inj h⟩
        · obtain ⟨others, hothers, h⟩ := Result.bind_eq_ok.1 h
          exact ⟨others, hothers, Except.ok.inj h⟩
      have hdepth : (w.push ⟨t, previous? earlier, codeAhead later⟩).depth =
          openBrackets (earlier ++ [t]) := by
        rw [openBrackets_concat, depthBehind_of_ne (by simp [hkind])]
        exact h₀
      rw [refersToLayer_eq hattributes h₀ hkind, ih hdepth hothers] at hnames
      rw [referencesIn, ← hnames]
      split <;> rfl
    · next hnewline hoperator hname =>
      exact hother hname h (depthBehind_of_ne hoperator _).symm

end walk

/-! ### Places of references -/

theorem mem_of_mem_referencesIn {attributes : List String} {ts earlier : List Token} {r : Token}
    (h : r ∈ referencesIn attributes earlier ts) : r ∈ ts ∧ r.kind = .name := by
  induction ts generalizing earlier with
  | nil => exact absurd h List.not_mem_nil
  | cons t later ih =>
    rcases List.mem_append.1 h with h | h
    · split at h
      · next hreference =>
        obtain rfl := List.mem_singleton.1 h
        exact ⟨List.mem_cons_self, kind_of_isReference hreference⟩
      · exact absurd h List.not_mem_nil
    · exact ⟨List.mem_cons_of_mem _ (ih h).1, (ih h).2⟩

theorem isNameAmong_iff {t : Token} {names : List Token} :
    t.isNameAmong names = true ↔
      t.kind = .name ∧ ∃ r ∈ names, r.line = t.line ∧ r.column = t.column := by
  rw [Token.isNameAmong, Bool.and_eq_true, beq_iff_eq, List.any_eq_true]
  refine and_congr Iff.rfl (exists_congr fun r => and_congr Iff.rfl ?_)
  rw [Bool.and_eq_true, beq_iff_eq, beq_iff_eq]

/-- `self.` in front of the places of the references is `self.` in front of the references. -/
theorem flatMap_isNameAmong {attributes : List String} {ts earlier : List Token}
    (h : ts.Pairwise Token.Apart) :
    (ts.flatMap fun t => t.expansion (t.isNameAmong (referencesIn attributes earlier ts))) =
      boundContents attributes earlier ts := by
  induction ts generalizing earlier with
  | nil => rfl
  | cons t later ih =>
    obtain ⟨hapart, hlater⟩ := List.pairwise_cons.1 h
    have hhere : t.isNameAmong (referencesIn attributes earlier (t :: later)) =
        isReference attributes earlier t later := by
      rw [Bool.eq_iff_iff, isNameAmong_iff, referencesIn]
      constructor
      · rintro ⟨hname, r, hr, hsame⟩
        rcases List.mem_append.1 hr with hr | hr
        · split at hr
          · assumption
          · exact absurd hr List.not_mem_nil
        · obtain ⟨hmem, hrname⟩ := mem_of_mem_referencesIn hr
          exact absurd ⟨hsame.1.symm, hsame.2.symm⟩ (hapart r hmem hname hrname)
      · intro hreference
        rw [if_pos hreference]
        exact ⟨kind_of_isReference hreference, t,
          List.mem_append_left _ List.mem_cons_self, rfl, rfl⟩
    -- a later name stands elsewhere, so it is not taken for this one
    have hthere : ∀ u ∈ later,
        u.isNameAmong (referencesIn attributes earlier (t :: later)) =
          u.isNameAmong (referencesIn attributes (earlier ++ [t]) later) := by
      intro u hu
      rw [Bool.eq_iff_iff, isNameAmong_iff, isNameAmong_iff, referencesIn]
      refine and_congr_right fun huname => ⟨?_, ?_⟩
      · rintro ⟨r, hr, hsame⟩
        rcases List.mem_append.1 hr with hr | hr
        · split at hr
          · next hreference =>
            obtain rfl := List.mem_singleton.1 hr
            exact absurd hsame (hapart u hu (kind_of_isReference hreference) huname)
          · exact absurd hr List.not_mem_nil
        · exact ⟨r, hr, hsame⟩
      · rintro ⟨r, hr, hsame⟩
        exact ⟨r, List.mem_append_right _ hr, hsame⟩
    rw [List.flatMap_cons, hhere, flatMap_expansion_congr hthere, ih hlater]
    rfl

end LayerGraph.Flow
