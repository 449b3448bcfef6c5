import LayerGraph.Proofs.Setting.Fits

/-! # Exact equality of constants

    Exact equality is what decides whether an argument is left out of a call. Between constants it
    is no equivalence, since NaN is not equal to itself, but two constants that are equal to a third
    value are equal to each other (`same_of_same`), and a value that fits a shape is equal to itself
    if the shape bounds its numbers (`Shape.same_self_of_fits`).
-/

namespace LayerGraph

open Number (Binary64)

/-! ### Numbers -/

theorem Number.Binary64.eq_of_eq {x y z : Binary64} (hx : x.eq z = true) (hy : y.eq z = true) :
    x.eq y = true := by
  cases x <;> cases y <;> cases z <;> simp_all [Binary64.eq]

theorem Number.Binary64.eq_self {x : Binary64} (h : x ≠ .nan) : x.eq x = true := by
  cases x with
  | nan => exact absurd rfl h
  | infinity negative => cases negative <;> rfl
  | finite negative m => simp [Binary64.eq]

/-- No bound admits NaN. -/
theorem Bound.admitsFloat_nan (bound : Bound) : bound.admitsFloat .nan = false := by
  cases bound with
  | above limit | atLeast limit =>
    simp only [admitsFloat]
    cases limitFloat limit <;> rfl
  | atMost limit | below limit => rfl

/-! ### Constants -/

namespace Value

section inversion
variable {d : Value}

@[simp] theorem same_bool_iff {b : Bool} : (Value.bool b).same d = true ↔ d = .bool b := by
  cases d with
  | bool c => cases b <;> cases c <;> simp [same, equals, leafEquals, typeName, integer?]
  | _ => simp [same, equals, leafEquals, typeName, integer?, text?]

@[simp] theorem same_int_iff {n : Int} : (Value.int n).same d = true ↔ d = .int n := by
  cases d with
  | int m =>
    simp only [same, equals, leafEquals, typeName, integer?, beq_self_eq_true, Bool.true_and,
      beq_iff_eq, Value.int.injEq]
    exact eq_comm
  | _ => simp [same, equals, leafEquals, typeName, integer?, text?]

@[simp] theorem same_float_iff {x : Binary64} :
    (Value.float x).same d = true ↔ ∃ y, d = .float y ∧ x.eq y = true := by
  cases d <;> simp [same, equals, leafEquals, typeName, integer?, text?]

@[simp] theorem same_str_iff {s : String} : (Value.str s).same d = true ↔ d = .str s := by
  cases d with
  | str t =>
    simp only [same, equals, leafEquals, typeName, integer?, text?, beq_self_eq_true,
      Bool.true_and, beq_iff_eq, Value.str.injEq]
    exact eq_comm
  | _ => simp [same, equals, leafEquals, typeName, integer?, text?]

@[simp] theorem same_tuple_iff {items : List Value} :
    (Value.tuple items).same d = true ↔
      ∃ others, d = .tuple others ∧ sameAll items others = true := by
  cases d with
  | tuple others => simp [same]
  | _ => simp [same, equals, leafEquals, typeName, integer?, text?]

end inversion

theorem sameAll_self {items : List Value} (h : ∀ v ∈ items, v.same v = true) :
    sameAll items items = true := by
  induction items with
  | nil => rw [sameAll]
  | cons v items ih =>
    obtain ⟨hv, hitems⟩ := List.forall_mem_cons.1 h
    rw [sameAll, hv, ih hitems]
    rfl

/-- The items of two tuples that are equal to a third one are equal to each other. -/
theorem sameAll_of_sameAll {items : List Value}
    (h : ∀ v ∈ items, ∀ {w d : Value}, w.IsConstant → v.same d = true → w.same d = true →
      v.same w = true) {ws ds : List Value} (hws : ∀ w ∈ ws, w.IsConstant)
    (hitems : sameAll items ds = true) (hothers : sameAll ws ds = true) :
    sameAll items ws = true := by
  induction items generalizing ws ds with
  | nil => cases ds <;> cases ws <;> simp_all [sameAll]
  | cons v items ih =>
    cases ds with
    | nil => simp [sameAll] at hitems
    | cons d ds =>
      cases ws with
      | nil => simp [sameAll] at hothers
      | cons w ws =>
        obtain ⟨hv, hrest⟩ := List.forall_mem_cons.1 h
        obtain ⟨hw, hws⟩ := List.forall_mem_cons.1 hws
        simp only [sameAll, Bool.and_eq_true] at hitems hothers ⊢
        exact ⟨hv hw hitems.1 hothers.1, ih hrest hws hitems.2 hothers.2⟩

/-- Two constants that are equal to a value are equal to each other. -/
theorem IsConstant.same_of_same {v : Value} (hv : v.IsConstant) :
    ∀ {w d : Value}, w.IsConstant → v.same d = true → w.same d = true → v.same w = true := by
  -- what the value is built as is what the third one and then the second one are built as
  induction hv with
  | null =>
    intro w d hw h hother
    obtain rfl := same_null_iff.1 h
    cases hw <;> simp_all
  | bool b =>
    intro w d hw h hother
    obtain rfl := same_bool_iff.1 h
    cases hw <;> simp_all
  | int n =>
    intro w d hw h hother
    obtain rfl := same_int_iff.1 h
    cases hw <;> simp_all
  | float x =>
    intro w d hw h hother
    obtain ⟨z, rfl, hz⟩ := same_float_iff.1 h
    cases hw with
    | float y =>
      obtain ⟨_, hsame, hy⟩ := same_float_iff.1 hother
      obtain rfl := Value.float.inj hsame
      exact same_float_iff.2 ⟨y, rfl, Binary64.eq_of_eq hz hy⟩
    | _ => simp_all
  | str s =>
    intro w d hw h hother
    obtain rfl := same_str_iff.1 h
    cases hw <;> simp_all
  | tuple _ ih =>
    intro w d hw h hother
    obtain ⟨ds, rfl, hds⟩ := same_tuple_iff.1 h
    cases hw with
    | tuple hws =>
      obtain ⟨_, hsame, hothers⟩ := same_tuple_iff.1 hother
      obtain rfl := Value.tuple.inj hsame
      exact same_tuple_iff.2 ⟨_, rfl, sameAll_of_sameAll ih hws hds hothers⟩
    | _ => simp_all

end Value

/-! ### Values that fit a shape -/

namespace Shape

/-- Whether all numbers in a shape are bounded. -/
def boundsNumbers : Shape → Bool
  | .number bounds => !bounds.isEmpty
  | .pair item => item.boundsNumbers
  | .sequence item => item.boundsNumbers
  | .optional inner => inner.boundsNumbers
  | .either first second => first.boundsNumbers && second.boundsNumbers
  | _ => true

/-- A value that fits a shape with bounded numbers is equal to itself. -/
theorem same_self_of_fits {shape : Shape} {v : Value} (hbounds : shape.boundsNumbers = true)
    (h : shape.Fits v) : v.same v = true := by
  induction shape generalizing v with
  | number bounds =>
    obtain ⟨x, rfl, hx⟩ := h
    refine Value.same_float_iff.2 ⟨x, rfl, Binary64.eq_self ?_⟩
    rintro rfl
    -- no bound admits what is not a number, the only value that differs from itself
    cases bounds with
    | nil => exact absurd hbounds nofun
    | cons bound rest =>
      have hadmits := hx bound List.mem_cons_self
      rw [bound.admitsFloat_nan] at hadmits
      exact absurd hadmits nofun
  | pair item ih =>
    obtain ⟨first, second, rfl, hfirst, hsecond⟩ := h
    refine Value.same_tuple_iff.2 ⟨_, rfl, Value.sameAll_self ?_⟩
    exact List.forall_mem_cons.2
      ⟨ih hbounds hfirst, List.forall_mem_singleton.2 (ih hbounds hsecond)⟩
  | sequence item ih =>
    obtain ⟨items, rfl, hitems⟩ := h
    exact Value.same_tuple_iff.2
      ⟨items, rfl, Value.sameAll_self fun v hv => ih hbounds (hitems v hv)⟩
  | optional inner ih =>
    rcases h with rfl | hinner
    · exact Value.same_null_iff.2 rfl
    · exact ih hbounds hinner
  | either first second ihfirst ihsecond =>
    obtain ⟨hfirst, hsecond⟩ := Bool.and_eq_true_iff.1 hbounds
    exact h.elim (ihfirst hfirst) (ihsecond hsecond)
  | integer =>
    obtain ⟨n, rfl, _⟩ := h
    exact Value.same_int_iff.2 rfl
  | boolean =>
    obtain ⟨b, rfl⟩ := h
    exact Value.same_bool_iff.2 rfl
  | text =>
    obtain ⟨s, rfl⟩ := h
    exact Value.same_str_iff.2 rfl
  | filledText | name | dottedName | choice =>
    obtain ⟨s, rfl, _⟩ := h
    exact Value.same_str_iff.2 rfl

end Shape

end LayerGraph
