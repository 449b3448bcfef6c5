import LayerGraph.Proofs.Arguments
import LayerGraph.Proofs.Node.Calls
import LayerGraph.Proofs.Node.Fair

/-! # Ranges of dimensions

    `flatten` joins the dimensions from a first to a last one. A dimension is counted from the
    front, or from the back if it is negative, so which of two comes first may depend on the rank of
    the tensor. A range is *possible* if it fits a tensor of some rank. Whether there is such a rank
    is decided by the signs and one comparison (`isPossible_iff`). All settings of `flatten` have a
    range (`exists_hasRange`), but its rule leaves one pair of signs out: two dimensions that are
    both counted from the back are never compared (`refuses_range`).
-/

namespace LayerGraph

namespace Node

/-! ### Possible ranges -/

/-- The place of a dimension among those of a tensor. -/
def placeAmong (rank : Nat) (dim : Int) : Int := if dim < 0 then rank + dim else dim

/-- Whether a tensor has a dimension. -/
def IsDim (rank : Nat) (dim : Int) : Prop := -rank ≤ dim ∧ dim < rank

/-- Whether some tensor has both dimensions, the last one not before the first one. -/
def IsPossible (first last : Int) : Prop :=
  ∃ rank : Nat, IsDim rank first ∧ IsDim rank last ∧ placeAmong rank first ≤ placeAmong rank last

theorem placeAmong_of_neg {dim : Int} (h : dim < 0) (rank : Nat) :
    placeAmong rank dim = rank + dim := if_pos h

theorem placeAmong_of_nonneg {dim : Int} (h : 0 ≤ dim) (rank : Nat) : placeAmong rank dim = dim :=
  if_neg (by omega)

/-- Two dimensions that are counted from the same end are in the order of their numbers. -/
theorem placeAmong_le_iff {first last : Int} (h : first < 0 ↔ last < 0) (rank : Nat) :
    placeAmong rank first ≤ placeAmong rank last ↔ first ≤ last := by
  by_cases hneg : first < 0
  · rw [placeAmong_of_neg hneg, placeAmong_of_neg (h.1 hneg)]
    omega
  · rw [placeAmong_of_nonneg (by omega), placeAmong_of_nonneg (by omega)]

/-- Dimensions that are counted from different ends fit tensors of some rank, in both orders. -/
theorem isPossible_of_signs {first last : Int} (h : ¬(first < 0 ↔ last < 0)) :
    IsPossible first last := by
  by_cases hneg : first < 0
  · -- from the back to the front: a tensor that is just large enough for both
    refine ⟨max first.natAbs (last.natAbs + 1), ⟨by omega, by omega⟩, ⟨by omega, by omega⟩, ?_⟩
    rw [placeAmong_of_neg hneg, placeAmong_of_nonneg (by omega)]
    omega
  · -- from the front to the back: a tensor with room between the two
    refine ⟨first.natAbs + last.natAbs + 1, ⟨by omega, by omega⟩, ⟨by omega, by omega⟩, ?_⟩
    rw [placeAmong_of_nonneg (by omega), placeAmong_of_neg (by omega)]
    omega

/-- A range is impossible if both its dimensions are counted from the same end and the last one has
    the smaller number, and in no other case. -/
theorem isPossible_iff {first last : Int} :
    IsPossible first last ↔ ((first < 0 ↔ last < 0) → first ≤ last) := by
  constructor
  · intro ⟨rank, _, _, hle⟩ hsigns
    exact (placeAmong_le_iff hsigns rank).1 hle
  · intro hordered
    by_cases hsigns : first < 0 ↔ last < 0
    · refine ⟨first.natAbs + last.natAbs + 1, ⟨by omega, by omega⟩, ⟨by omega, by omega⟩, ?_⟩
      exact (placeAmong_le_iff hsigns _).2 (hordered hsigns)
    · exact isPossible_of_signs hsigns

/-! ### Integers as arguments -/

end Node

namespace Call

/-- An integer that is left out is a default, so it is as short as that. -/
theorem isShort_of_isSuppressed {defaults : Entries}
    (hdefaults : ∀ entry ∈ defaults, entry.2.isShowable = true) {name : String} {n : Int}
    (h : isSuppressed defaults (name, .int n) = true) : Value.isShort n = true := by
  unfold isSuppressed at h
  cases hfound : defaults.get? name with
  | none =>
    rw [hfound] at h
    exact absurd h nofun
  | some standard =>
    rw [hfound] at h
    obtain rfl := Value.same_int_iff.1 h
    exact hdefaults (name, .int n) (Entries.mem_of_get? hfound)

/-- Arguments that are integers are there unless one of them is too long to be written. -/
theorem isShown_arguments_integers {defaults : Entries}
    (hdefaults : ∀ entry ∈ defaults, entry.2.isShowable = true) (positional : Bool)
    (integers : List (String × Int)) :
    Value.IsShown (integers.all (Value.isShort ·.2))
      (arguments [] (integers.map fun n => (n.1, .int n.2)) defaults positional) := by
  let told := (integers.map fun n => (n.1, Value.int n.2)).filter (!isSuppressed defaults ·)
  have hdata : ∀ argument ∈ told, argument.2.IsData := by
    intro argument hargument
    obtain ⟨n, _, rfl⟩ := List.mem_map.1 (List.mem_filter.1 hargument).1
    exact .int n.2
  have hall : told.all (·.2.isShowable) = integers.all (Value.isShort ·.2) := by
    rw [List.all_filter, List.all_map]
    refine List.all_congr rfl fun n => ?_
    cases hleft : isSuppressed defaults (n.1, .int n.2) with
    | true => simp [hleft, isShort_of_isSuppressed hdefaults hleft]
    | false => simp [hleft, Value.isShowable]
  have hshown := Value.isShown_mapM fun argument hargument =>
    isShown_requiredArgument false (hdata argument hargument)
  rw [hall] at hshown
  exact hshown.map (", ".intercalate ·)

end Call

namespace Node

/-! ### Settings with a range -/

/-- Settings that are accepted one by one, with the two dimensions that they have. -/
def HasRange (given : Value) (settings : Entries) (first last : Int) : Prop :=
  flatten.schema.parseValue flatten.typeKey given = .ok settings ∧
    settings.get? "startDim" = some (.int first) ∧ settings.get? "endDim" = some (.int last)

/-- Settings that name two dimensions. -/
def range (first last : Int) : Value :=
  .ofEntries [("startDim", .int first), ("endDim", .int last)]

/-- Any two integers pass the checks one by one. -/
theorem hasRange_range (first last : Int) :
    HasRange (range first last)
      [("variableName", .null), ("startDim", .int first), ("endDim", .int last)] first last := by
  refine ⟨?_, rfl, rfl⟩
  refine Schema.parseValue_of_checked _ ?_ rfl ?_
  · have hkeys : "startDim" ∈ flatten.schema.keys ∧ "endDim" ∈ flatten.schema.keys := by decide
    exact List.forall_mem_cons.2 ⟨hkeys.1, List.forall_mem_singleton.2 hkeys.2⟩
  · exact .cons ⟨rfl, rfl⟩ (.cons ⟨rfl, rfl⟩ (.cons ⟨rfl, rfl⟩ .nil))

/-- All settings that are accepted one by one have two dimensions. -/
theorem exists_hasRange {given : Value} {settings : Entries}
    (h : flatten.schema.parseValue flatten.typeKey given = .ok settings) :
    ∃ first last, HasRange given settings first last := by
  have hfits := Schema.fits_of_parseValue h
  have hkeys : flatten.schema.keys.Nodup := by decide
  have hstart : withStandard "startDim" anyInt (.int 1) ∈ flatten.schema := by simp [flatten]
  have hend : withStandard "endDim" anyInt (.int (-1)) ∈ flatten.schema := by simp [flatten]
  obtain ⟨_, hfirst, first, rfl, -⟩ := hfits.get? hkeys hstart
  obtain ⟨_, hlast, last, rfl, -⟩ := hfits.get? hkeys hend
  exact ⟨first, last, h, hfirst, hlast⟩

/-! ### The call -/

section call
variable {given : Value} {settings : Entries} {first last : Int}
  (h : HasRange given settings first last)
include h

theorem checkRule_of_hasRange : flatten.checkRule settings =
    if 0 ≤ first ∧ 0 ≤ last ∧ last < first then
      refuse (.invalidSetting "Flatten" "endDim" .endBeforeStart)
    else .ok () := by
  obtain ⟨-, hfirst, hlast⟩ := h
  have hstart : intAt settings "startDim" = first := by simp [intAt, hfirst]
  have hend : intAt settings "endDim" = last := by simp [intAt, hlast]
  have hrule : flatten.rule settings =
      if 0 ≤ first ∧ 0 ≤ last ∧ last < first then some ⟨"endDim", .endBeforeStart⟩ else none := by
    show rangeRule settings = _
    unfold rangeRule
    rw [hstart, hend]
  unfold ConstructorNode.checkRule
  rw [hrule]
  by_cases hbad : 0 ≤ first ∧ 0 ≤ last ∧ last < first
  · rw [if_pos hbad, if_pos hbad]
    rfl
  · rw [if_neg hbad, if_neg hbad]

/-- The arguments are there unless one of the two integers is too long to be written. -/
theorem isShown_arguments_of_hasRange :
    Value.IsShown (Value.isShort first && Value.isShort last)
      (Call.arguments (flatten.required.map (·.fed settings))
        (flatten.optional.map (·.fed settings)) flatten.suppressed flatten.positional) := by
  obtain ⟨-, hfirst, hlast⟩ := h
  have hfed : flatten.optional.map (·.fed settings) =
      [("start_dim", first), ("end_dim", last)].map fun dim => (dim.1, Value.int dim.2) := by
    simp [flatten, Argument.fed, hfirst, hlast]
  have hdefaults : ∀ entry ∈ flatten.suppressed, entry.2.isShowable = true := by
    have hone : Value.isShort 1 = true := @Value.isShort_of_lt 1 1 (by decide) (by decide)
    have hminus : Value.isShort (-1) = true := @Value.isShort_of_lt (-1) 1 (by decide) (by decide)
    simp [flatten, Value.isShowable, hone, hminus]
  have hshown := Call.isShown_arguments_integers hdefaults flatten.positional
    [("start_dim", first), ("end_dim", last)]
  rw [List.all_cons, List.all_cons, List.all_nil, Bool.and_true] at hshown
  rw [hfed]
  exact hshown

/-- The call is there unless one of the two integers is too long to be written. -/
theorem emitValid_of_hasRange :
    if Value.isShort first && Value.isShort last then ∃ code, flatten.emitValid settings = .ok code
    else flatten.emitValid settings = .error (.noText .integerTooLong) := by
  have hshown := isShown_arguments_of_hasRange h
  unfold Value.IsShown at hshown
  unfold ConstructorNode.emitValid
  by_cases hshort : (Value.isShort first && Value.isShort last) = true
  · rw [if_pos hshort] at hshown ⊢
    obtain ⟨arguments, harguments⟩ := hshown
    rw [harguments]
    -- the template has three places, and there is a text for each
    exact ⟨_, (renderSource_text ConstructorNode.segments flatten.typeKey
      (by simp [Entries.get?, List.lookup]) : renderSource flatten.typeKey _
        [("assignment", .str (ConstructorNode.assignment settings)),
          ("callee", .str flatten.callee), ("args", .str arguments)] = _)⟩
  · rw [if_neg hshort] at hshown ⊢
    rw [hshown]
    rfl

theorem emit_of_hasRange {inside : Inside} (hinside : inside.given = false) :
    flatten.emit given inside =
      (flatten.checkRule settings >>= fun _ => flatten.emitValid settings) := by
  have hchild : refuseChild flatten.typeKey inside = .ok () := refuseChild_eq_ok.2 hinside
  unfold ConstructorNode.emit
  rw [h.1, hchild]
  rfl

end call

/-! ### What is refused -/

/-- Impossible ranges of two dimensions that are not both counted from the back are refused.

    Any two integers are settings of `flatten`. Whatever other settings there are, the range is
    refused as one whose last dimension comes first if it is impossible and one of its dimensions
    is counted from the front. If it is possible, or both dimensions are counted from the back in
    whatever order, there is code, unless one of the integers is too long to be written. -/
theorem refuses_range (first last : Int) :
    (∃ settings, HasRange (range first last) settings first last) ∧
      ∀ given settings inside, HasRange given settings first last → inside.given = false →
        (¬IsPossible first last → 0 ≤ first ∨ 0 ≤ last →
          flatten.emit given inside =
            refuse (.invalidSetting "Flatten" "endDim" .endBeforeStart)) ∧
        (IsPossible first last ∨ (first < 0 ∧ last < 0) →
          if Value.isShort first && Value.isShort last then
            ∃ code, flatten.emit given inside = .ok code
          else flatten.emit given inside = .error (.noText .integerTooLong)) := by
  refine ⟨⟨_, hasRange_range first last⟩, ?_⟩
  intro given settings inside h hinside
  rw [emit_of_hasRange h hinside, checkRule_of_hasRange h, isPossible_iff]
  constructor
  · intro himpossible hfront
    have hbad : 0 ≤ first ∧ 0 ≤ last ∧ last < first := by omega
    rw [if_pos hbad]
    rfl
  · intro haccepted
    have hfine : ¬(0 ≤ first ∧ 0 ≤ last ∧ last < first) := by omega
    rw [if_neg hfine]
    exact emitValid_of_hasRange h

/-- No tensor has a range from the dimension 2 back to the dimension 1, and it is refused. -/
theorem refuses_range_backwards :
    ¬IsPossible 2 1 ∧
      flatten.emit (range 2 1) (Child.none.inside fun _ => .ok flatten.plugin) =
        refuse (.invalidSetting "Flatten" "endDim" .endBeforeStart) := by
  have himpossible : ¬IsPossible 2 1 := by
    rw [isPossible_iff]
    decide
  obtain ⟨⟨settings, h⟩, hrange⟩ := refuses_range 2 1
  exact ⟨himpossible, (hrange _ settings _ h rfl).1 himpossible (by decide)⟩

/-- The last but one dimension comes before the last one in every tensor, and a range from the last
    one to it is not refused. -/
theorem emit_rangeFromBack :
    (∀ rank : Nat, placeAmong rank (-2) < placeAmong rank (-1)) ∧ ¬IsPossible (-1) (-2) ∧
      flatten.emit (range (-1) (-2)) (Child.none.inside fun _ => .ok flatten.plugin) =
        .ok "torch.nn.Flatten(start_dim=-1, end_dim=-2)" := by
  refine ⟨fun rank => ?_, ?_, Result.eq_ok_of_toOption (by decide +kernel)⟩
  · rw [placeAmong_of_neg (by decide), placeAmong_of_neg (by decide)]
    omega
  · rw [isPossible_iff]
    decide

end Node

end LayerGraph
