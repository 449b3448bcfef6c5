import LayerGraph.Proofs.Value.Same

/-! # How far equality tells types apart

    Two values are *exactly* equal if they have the same types at every place, down to the keys and
    values of mappings, and equal leaves (`exactly`). The two equalities of values are coarser, and
    each is told by what it does not see. Equality across types is exact equality of *blurred*
    values, in which truth values and whole numbers are integers and raw expressions are strings
    (`equals_eq_exactly`). Equality within types sees every type outside of mappings and sets, and
    blurs what stands inside them (`same_eq_exactly`). So exactly equal values are the same
    (`same_of_exactly`), and the converse holds of values whose mappings and sets hold nothing that
    could be blurred (`same_eq_exactly_of_blurredInside`).
-/

namespace LayerGraph

open Number (Binary64)

/-! ### Whole numbers -/

namespace Number.Binary64

theorem eq_eq_units {x y : Binary64} {m n : Int} (hx : x.units? = some m) (hy : y.units? = some n) :
    x.eq y = (m == n) := by
  cases x with
  | finite s p =>
    cases y with
    | finite t q =>
      obtain rfl := Option.some.inj hx
      obtain rfl := Option.some.inj hy
      rfl
    | nan | infinity => exact absurd hy nofun
  | nan | infinity => exact absurd hx nofun

theorem units?_of_integer? {x : Binary64} {n : Int} (h : x.integer? = some n) :
    x.units? = some (n * Magnitude.unitsPerOne) := by
  obtain ⟨units, hunits, hwhole⟩ := Option.bind_eq_some_iff.1 h
  split at hwhole
  · next hmod =>
    obtain rfl := Option.some.inj hwhole
    rw [hunits, Int.ediv_mul_cancel (Int.dvd_of_emod_eq_zero hmod)]
  · exact absurd hwhole nofun

/-- Whole numbers are equal if they are the same integer. -/
theorem eq_eq_integers {x y : Binary64} {m n : Int} (hx : x.integer? = some m)
    (hy : y.integer? = some n) : x.eq y = (m == n) := by
  have hone : (Magnitude.unitsPerOne : Int) ≠ 0 := by decide +kernel
  rw [eq_eq_units (units?_of_integer? hx) (units?_of_integer? hy), Bool.eq_iff_iff, beq_iff_eq,
    beq_iff_eq, Int.mul_eq_mul_right_iff hone]

/-- Equal numbers are the same integer, or both are none. -/
theorem integer?_eq_of_eq {x y : Binary64} (h : x.eq y = true) : x.integer? = y.integer? := by
  suffices hunits : x.units? = y.units? by rw [integer?, integer?, hunits]
  cases x <;> cases y <;> simp_all [eq, units?]

end Number.Binary64

namespace Value

/-! ### Exact equality -/

mutual

/-- Exact equality: the same types at every place, and equal leaves. Sets with the same items are
    equal, and mappings with the same entries, in any order. -/
def exactly : Value → Value → Bool
  | .null, .null => true
  | .bool b, .bool c => b == c
  | .int m, .int n => m == n
  | .float x, .float y => x.eq y
  | .str s, .str t => s == t
  | .expr s, .expr t => s == t
  | .bytes content, .bytes other => content == other
  | .tuple xs, .tuple ys => exactlyAll xs ys
  | .list xs, .list ys => exactlyAll xs ys
  | .set xs, .set ys => xs.length == ys.length && exactlySome xs ys
  | .map xs, .map ys => xs.length == ys.length && exactlyEntries xs ys
  | .foreign thing, .foreign other => thing.comparable && thing == other
  | _, _ => false

/-- Exact equality of the items of two sequences. -/
def exactlyAll : List Value → List Value → Bool
  | [], [] => true
  | x :: xs, y :: ys => exactly x y && exactlyAll xs ys
  | _, _ => false

/-- Whether every item of the first set is exactly equal to one in the second. -/
def exactlySome : List Value → List Value → Bool
  | [], _ => true
  | x :: xs, ys => ys.any (exactly x) && exactlySome xs ys

/-- Whether every entry of the first mapping has an exactly equal one in the second. -/
def exactlyEntries : List (Value × Value) → List (Value × Value) → Bool
  | [], _ => true
  | (key, value) :: rest, ys =>
    ys.any (fun entry => exactly key entry.1 && exactly value entry.2) && exactlyEntries rest ys

end

/-! ### Blurred values -/

mutual

/-- A value without the types that equality across types does not see. -/
def blurred : Value → Value
  | .bool b => .int (if b then 1 else 0)
  | .float x => match x.integer? with
    | some n => .int n
    | none => .float x
  | .expr s => .str s
  | .tuple items => .tuple (blurredAll items)
  | .list items => .list (blurredAll items)
  | .set items => .set (blurredAll items)
  | .map entries => .map (blurredEntries entries)
  | v => v

/-- The items of a sequence, blurred. -/
def blurredAll : List Value → List Value
  | [] => []
  | item :: rest => blurred item :: blurredAll rest

/-- The entries of a mapping with blurred keys and values. -/
def blurredEntries : List (Value × Value) → List (Value × Value)
  | [] => []
  | (key, value) :: rest => (blurred key, blurred value) :: blurredEntries rest

end

mutual

/-- A value of which everything inside mappings and sets is blurred. -/
def blurredInside : Value → Value
  | .tuple items => .tuple (blurredInsideAll items)
  | .list items => .list (blurredInsideAll items)
  | .set items => blurred (.set items)
  | .map entries => blurred (.map entries)
  | v => v

/-- The items of a sequence, blurred inside. -/
def blurredInsideAll : List Value → List Value
  | [] => []
  | item :: rest => blurredInside item :: blurredInsideAll rest

end

theorem blurredAll_eq_map (items : List Value) : blurredAll items = items.map blurred := by
  induction items with
  | nil => rfl
  | cons item rest ih => rw [blurredAll, ih, List.map_cons]

theorem blurredEntries_eq_map (entries : List (Value × Value)) :
    blurredEntries entries = entries.map fun entry => (blurred entry.1, blurred entry.2) := by
  induction entries with
  | nil => rfl
  | cons entry rest ih => rw [blurredEntries, ih, List.map_cons]

/-! ### Equality across types -/

/-- Numbers are compared by what they are when they are blurred. -/
theorem eq_eq_exactly (x y : Binary64) :
    x.eq y = exactly (blurred (.float x)) (blurred (.float y)) := by
  have hdiffer : x.integer? ≠ y.integer? → x.eq y = false := fun hne =>
    Bool.eq_false_iff.2 fun heq => hne (Binary64.integer?_eq_of_eq heq)
  cases hx : x.integer? with
  | none =>
    cases hy : y.integer? with
    | none => simp [blurred, hx, hy, exactly]
    | some n => simp [blurred, hx, hy, exactly, hdiffer]
  | some m =>
    cases hy : y.integer? with
    | none => simp [blurred, hx, hy, exactly, hdiffer]
    | some n => simp [blurred, hx, hy, exactly, Binary64.eq_eq_integers hx hy]

/-- Two values of which one holds no others are compared by what they are when they are blurred. -/
theorem leafEquals_eq_exactly {v w : Value} (hleaf : v.isLeaf = true ∨ w.isLeaf = true) :
    leafEquals v w = exactly v.blurred w.blurred := by
  cases v with
  | float x =>
    cases w with
    | float y => exact eq_eq_exactly x y
    | _ => cases hx : x.integer? <;> simp [leafEquals, blurred, exactly, integer?, text?, hx]
  | _ =>
    cases w with
    | float y => cases hy : y.integer? <;> simp [leafEquals, blurred, exactly, integer?, text?, hy]
    | _ => simp_all [leafEquals, blurred, exactly, integer?, text?, isLeaf]

section rows
variable {items : List Value} (h : ∀ v ∈ items, ∀ w, v.equals w = exactly v.blurred w.blurred)
include h

theorem equalsAll_eq_exactly (others : List Value) :
    equalsAll items others = exactlyAll (blurredAll items) (blurredAll others) := by
  induction items generalizing others with
  | nil => cases others <;> simp only [equalsAll, blurredAll, exactlyAll]
  | cons v items ih =>
    obtain ⟨hv, hitems⟩ := List.forall_mem_cons.1 h
    cases others with
    | nil => simp only [equalsAll, blurredAll, exactlyAll]
    | cons w others => simp only [equalsAll, blurredAll, exactlyAll, hv, ih hitems]

theorem equalsSome_eq_exactly (others : List Value) :
    equalsSome items others = exactlySome (blurredAll items) (blurredAll others) := by
  induction items with
  | nil => simp only [equalsSome, blurredAll, exactlySome]
  | cons v items ih =>
    obtain ⟨hv, hitems⟩ := List.forall_mem_cons.1 h
    have hany : v.equals = fun w => exactly v.blurred w.blurred := funext hv
    simp only [equalsSome, blurredAll, exactlySome, ih hitems, blurredAll_eq_map others,
      List.any_map, Function.comp_def, hany]

end rows

theorem equalsEntries_eq_exactly {entries : List (Value × Value)}
    (h : ∀ entry ∈ entries, (∀ w, entry.1.equals w = exactly entry.1.blurred w.blurred) ∧
      ∀ w, entry.2.equals w = exactly entry.2.blurred w.blurred) (others : List (Value × Value)) :
    equalsEntries entries others =
      exactlyEntries (blurredEntries entries) (blurredEntries others) := by
  induction entries with
  | nil => simp only [equalsEntries, blurredEntries, exactlyEntries]
  | cons entry entries ih =>
    obtain ⟨key, value⟩ := entry
    obtain ⟨⟨hkey, hvalue⟩, hentries⟩ := List.forall_mem_cons.1 h
    simp only [equalsEntries, blurredEntries, exactlyEntries, ih hentries,
      blurredEntries_eq_map others, List.any_map, Function.comp_def, hkey, hvalue]

/-- Values are equal across types exactly if they are exactly equal when they are blurred. -/
theorem equals_eq_exactly (v w : Value) : v.equals w = exactly v.blurred w.blurred := by
  induction v using induct generalizing w with
  | leaf v hleaf =>
    rw [← leafEquals_eq_exactly (Or.inl hleaf)]
    cases v with
    | tuple | list | set | map => cases hleaf
    | _ => simp only [equals]
  | tuple items ih =>
    cases w with
    | tuple others => simp only [equals, blurred, exactly, equalsAll_eq_exactly ih]
    | list | set | map => simp [equals, leafEquals, integer?, text?, blurred, exactly]
    | _ => simpa only [equals] using leafEquals_eq_exactly (Or.inr rfl)
  | list items ih =>
    cases w with
    | list others => simp only [equals, blurred, exactly, equalsAll_eq_exactly ih]
    | tuple | set | map => simp [equals, leafEquals, integer?, text?, blurred, exactly]
    | _ => simpa only [equals] using leafEquals_eq_exactly (Or.inr rfl)
  | set items ih =>
    cases w with
    | set others =>
      simp only [equals, blurred, exactly, equalsSome_eq_exactly ih, blurredAll_eq_map,
        List.length_map]
    | tuple | list | map => simp [equals, leafEquals, integer?, text?, blurred, exactly]
    | _ => simpa only [equals] using leafEquals_eq_exactly (Or.inr rfl)
  | map entries ih =>
    cases w with
    | map others =>
      simp only [equals, blurred, exactly, equalsEntries_eq_exactly ih, blurredEntries_eq_map,
        List.length_map]
    | tuple | list | set => simp [equals, leafEquals, integer?, text?, blurred, exactly]
    | _ => simpa only [equals] using leafEquals_eq_exactly (Or.inr rfl)

/-! ### Equality within types -/

theorem sameAll_eq_exactly {items : List Value}
    (h : ∀ v ∈ items, ∀ w, v.same w = exactly v.blurredInside w.blurredInside)
    (others : List Value) :
    sameAll items others = exactlyAll (blurredInsideAll items) (blurredInsideAll others) := by
  induction items generalizing others with
  | nil => cases others <;> simp only [sameAll, blurredInsideAll, exactlyAll]
  | cons v items ih =>
    obtain ⟨hv, hitems⟩ := List.forall_mem_cons.1 h
    cases others with
    | nil => simp only [sameAll, blurredInsideAll, exactlyAll]
    | cons w others => simp only [sameAll, blurredInsideAll, exactlyAll, hv, ih hitems]

/-- Values are the same within types exactly if they are exactly equal when what stands inside their
    mappings and sets is blurred. -/
theorem same_eq_exactly (v w : Value) : v.same w = exactly v.blurredInside w.blurredInside := by
  -- Blurring leaves the types of sequences as they are, so there the induction carries over. What
  -- stands inside sets and mappings is compared across types on both sides.
  induction v using induct generalizing w with
  | leaf v hleaf =>
    cases v with
    | tuple | list | set | map => exact absurd hleaf nofun
    | bool b =>
      cases w with
      | bool c =>
        cases b <;> cases c <;>
          simp [same, equals, leafEquals, typeName, integer?, blurredInside, exactly]
      | _ =>
        simp [same, equals, leafEquals, typeName, integer?, text?, blurredInside, blurred, exactly]
    | foreign thing =>
      cases w with
      | foreign other =>
        have hname : thing = other → thing.typeName = other.typeName := congrArg _
        simp only [same, equals, leafEquals, typeName, blurredInside, exactly]
        grind
      | _ => simp [same, equals, leafEquals, integer?, text?, blurredInside, blurred, exactly]
    | _ =>
      cases w <;>
        simp [same, equals, leafEquals, typeName, integer?, text?, blurredInside, blurred, exactly]
  | tuple items ih =>
    cases w with
    | tuple others => simp only [same, blurredInside, exactly, sameAll_eq_exactly ih]
    | _ => simp [same, equals, leafEquals, integer?, text?, blurredInside, blurred, exactly]
  | list items ih =>
    cases w with
    | list others => simp only [same, blurredInside, exactly, sameAll_eq_exactly ih]
    | _ => simp [same, equals, leafEquals, integer?, text?, blurredInside, blurred, exactly]
  | set items =>
    cases w with
    | set others =>
      simp only [same, typeName, beq_self_eq_true, Bool.true_and, equals_eq_exactly, blurredInside]
    | _ => simp [same, equals, leafEquals, integer?, text?, blurredInside, blurred, exactly]
  | map entries =>
    cases w with
    | map others =>
      simp only [same, typeName, beq_self_eq_true, Bool.true_and, equals_eq_exactly, blurredInside]
    | _ => simp [same, equals, leafEquals, integer?, text?, blurredInside, blurred, exactly]

/-! ### Exactly equal values are the same -/

section change
variable {change : Value → Value} {items : List Value}

theorem exactlyAll_map
    (h : ∀ v ∈ items, ∀ w, exactly v w = true → exactly (change v) (change w) = true)
    {others : List Value} (hexact : exactlyAll items others = true) :
    exactlyAll (items.map change) (others.map change) = true := by
  induction items generalizing others with
  | nil => cases others <;> simp_all [exactlyAll]
  | cons v items ih =>
    obtain ⟨hv, hitems⟩ := List.forall_mem_cons.1 h
    cases others with
    | nil => simp [exactlyAll] at hexact
    | cons w others =>
      simp only [exactlyAll, List.map_cons, Bool.and_eq_true] at hexact ⊢
      exact ⟨hv w hexact.1, ih hitems hexact.2⟩

theorem exactlySome_map
    (h : ∀ v ∈ items, ∀ w, exactly v w = true → exactly (change v) (change w) = true)
    {others : List Value} (hexact : exactlySome items others = true) :
    exactlySome (items.map change) (others.map change) = true := by
  induction items with
  | nil => simp only [List.map_nil, exactlySome]
  | cons v items ih =>
    obtain ⟨hv, hitems⟩ := List.forall_mem_cons.1 h
    simp only [exactlySome, List.map_cons, Bool.and_eq_true, List.any_eq_true] at hexact ⊢
    obtain ⟨⟨w, hw, hsame⟩, hrest⟩ := hexact
    exact ⟨⟨change w, List.mem_map_of_mem hw, hv w hsame⟩, ih hitems hrest⟩

theorem exactlyEntries_map {entries : List (Value × Value)}
    (h : ∀ entry ∈ entries,
      (∀ w, exactly entry.1 w = true → exactly (change entry.1) (change w) = true) ∧
      ∀ w, exactly entry.2 w = true → exactly (change entry.2) (change w) = true)
    {others : List (Value × Value)} (hexact : exactlyEntries entries others = true) :
    exactlyEntries (entries.map fun entry => (change entry.1, change entry.2))
      (others.map fun entry => (change entry.1, change entry.2)) = true := by
  induction entries with
  | nil => simp only [List.map_nil, exactlyEntries]
  | cons entry entries ih =>
    obtain ⟨key, value⟩ := entry
    obtain ⟨⟨hkey, hvalue⟩, hentries⟩ := List.forall_mem_cons.1 h
    simp only [exactlyEntries, List.map_cons, Bool.and_eq_true, List.any_eq_true] at hexact ⊢
    obtain ⟨⟨other, hother, hkeys, hvalues⟩, hrest⟩ := hexact
    exact ⟨⟨_, List.mem_map_of_mem hother, hkey _ hkeys, hvalue _ hvalues⟩, ih hentries hrest⟩

end change

/-- Exactly equal values stay so when they are blurred. -/
theorem exactly_blurred {v w : Value} (h : exactly v w = true) :
    exactly v.blurred w.blurred = true := by
  induction v using induct generalizing w with
  | leaf v hleaf =>
    cases v with
    | tuple | list | set | map => exact absurd hleaf nofun
    | float x =>
      cases w with
      | float y => exact (eq_eq_exactly x y).symm.trans (by simpa only [exactly] using h)
      | _ => simp [exactly] at h
    | foreign => cases w <;> first | exact h | simp [exactly] at h
    | _ => cases w <;> simp_all [exactly, blurred]
  | tuple items ih =>
    cases w with
    | tuple others =>
      simp only [blurred, blurredAll_eq_map, exactly] at h ⊢
      exact exactlyAll_map (fun v hv w => ih v hv) h
    | _ => simp [exactly] at h
  | list items ih =>
    cases w with
    | list others =>
      simp only [blurred, blurredAll_eq_map, exactly] at h ⊢
      exact exactlyAll_map (fun v hv w => ih v hv) h
    | _ => simp [exactly] at h
  | set items ih =>
    cases w with
    | set others =>
      simp only [blurred, blurredAll_eq_map, exactly, List.length_map, Bool.and_eq_true] at h ⊢
      exact ⟨h.1, exactlySome_map (fun v hv w => ih v hv) h.2⟩
    | _ => simp [exactly] at h
  | map entries ih =>
    cases w with
    | map others =>
      simp only [blurred, blurredEntries_eq_map, exactly, List.length_map, Bool.and_eq_true] at h ⊢
      exact ⟨h.1, exactlyEntries_map (fun entry hentry =>
        ⟨fun w => (ih entry hentry).1, fun w => (ih entry hentry).2⟩) h.2⟩
    | _ => simp [exactly] at h

theorem blurredInsideAll_eq_map (items : List Value) :
    blurredInsideAll items = items.map blurredInside := by
  induction items with
  | nil => rfl
  | cons item rest ih => rw [blurredInsideAll, ih, List.map_cons]

/-- Exactly equal values are the same within types. -/
theorem same_of_exactly {v w : Value} (h : exactly v w = true) : v.same w = true := by
  rw [same_eq_exactly]
  induction v using induct generalizing w with
  | leaf v hleaf =>
    cases v with
    | tuple | list | set | map => exact absurd hleaf nofun
    | foreign => cases w <;> first | exact h | simp [exactly] at h
    | _ => cases w <;> simp_all [exactly, blurredInside]
  | tuple items ih =>
    cases w with
    | tuple others =>
      simp only [blurredInside, blurredInsideAll_eq_map, exactly] at h ⊢
      exact exactlyAll_map (fun v hv w => ih v hv) h
    | _ => simp [exactly] at h
  | list items ih =>
    cases w with
    | list others =>
      simp only [blurredInside, blurredInsideAll_eq_map, exactly] at h ⊢
      exact exactlyAll_map (fun v hv w => ih v hv) h
    | _ => simp [exactly] at h
  | set items =>
    cases w with
    | set others => simpa only [blurredInside] using exactly_blurred h
    | _ => simp [exactly] at h
  | map entries =>
    cases w with
    | map others => simpa only [blurredInside] using exactly_blurred h
    | _ => simp [exactly] at h

/-! ### Values without mappings -/

mutual

/-- Whether a value is neither a mapping nor a set, nor holds any. -/
def isSequential : Value → Bool
  | .tuple items | .list items => areSequential items
  | .set _ | .map _ => false
  | _ => true

/-- Whether no item of a sequence is or holds a mapping or a set. -/
def areSequential : List Value → Bool
  | [] => true
  | item :: rest => isSequential item && areSequential rest

end

theorem areSequential_iff {items : List Value} :
    areSequential items = true ↔ ∀ v ∈ items, v.isSequential = true := by
  induction items with
  | nil => simp [areSequential]
  | cons item rest ih => simp [areSequential, ih]

/-- Without mappings and sets there is nothing inside them to be blurred. -/
theorem blurredInside_of_isSequential {v : Value} (h : v.isSequential = true) :
    v.blurredInside = v := by
  induction v using induct with
  | leaf v hleaf =>
    cases v with
    | tuple | list | set | map => exact absurd hleaf nofun
    | _ => rw [blurredInside] <;> exact nofun
  | tuple items ih | list items ih =>
    rw [isSequential, areSequential_iff] at h
    rw [blurredInside, blurredInsideAll_eq_map, List.map_congr_left fun v hv => ih v hv (h v hv),
      List.map_id']
  | set | map => simp [isSequential] at h

/-- Between values without mappings and sets, sameness is exact equality. -/
theorem same_eq_exactly_of_isSequential {v w : Value} (hv : v.isSequential = true)
    (hw : w.isSequential = true) : v.same w = exactly v w := by
  rw [same_eq_exactly, blurredInside_of_isSequential hv, blurredInside_of_isSequential hw]

end Value

end LayerGraph
