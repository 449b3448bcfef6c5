import LayerGraph.Program
import LayerGraph.Proofs.Parts
import LayerGraph.Proofs.Result
import LayerGraph.Proofs.Tidy

/-! # Programs of graphs put together

    A graph is turned into code layer by layer, so the code of two graphs, one after the other, is
    the code of the first followed by that of the second. The main statement says so for the solid
    lines of the code and for the failures (`codeOf_append`): no line is lost, merged or moved, and
    the first layer that fails is the failure of the whole.
-/

namespace LayerGraph

namespace Program

open Fragment (solidLines assemble)

/-! ### Layers one by one -/

/-- The fragment of one layer. -/
def fragment (resolve : Resolver) (layer : Layer) : Except Failure String :=
  (layer.part resolve).code

theorem fragments_eq_mapM (resolve : Resolver) (layers : List Layer) :
    fragments resolve layers = layers.mapM (fragment resolve) := by
  unfold fragments
  rw [Layer.parts_eq_map, List.mapM_map]
  rfl

section code
variable {resolve : Resolver} {layers : List Layer} {formatter : Option Fragment.Formatter}

/-- Code is assembled from the fragments that are not blank. -/
theorem codeOf_eq_ok {code : String} :
    codeOf resolve layers formatter = .ok code ↔
      ∃ all, layers.mapM (fragment resolve) = .ok all ∧
        code = assemble (all.filter (!Fragment.isBlank ·)) formatter := by
  unfold codeOf
  rw [fragments_eq_mapM, Result.bind_eq_ok]
  constructor
  · rintro ⟨all, hall, hcode⟩
    exact ⟨all, hall, (Except.ok.inj hcode).symm⟩
  · rintro ⟨all, hall, rfl⟩
    exact ⟨all, hall, rfl⟩

theorem codeOf_eq_error {failure : Failure} :
    codeOf resolve layers formatter = .error failure ↔
      layers.mapM (fragment resolve) = .error failure := by
  unfold codeOf
  rw [fragments_eq_mapM, Result.bind_eq_error]
  constructor
  · rintro (hlayers | ⟨_, _, hpure⟩)
    · exact hlayers
    · exact absurd hpure nofun
  · exact Or.inl

theorem codeOf_isOk_iff :
    (∃ code, codeOf resolve layers formatter = .ok code) ↔
      ∃ all, layers.mapM (fragment resolve) = .ok all := by
  constructor
  · rintro ⟨code, hcode⟩
    obtain ⟨all, hall, _⟩ := codeOf_eq_ok.1 hcode
    exact ⟨all, hall⟩
  · rintro ⟨all, hall⟩
    exact ⟨_, codeOf_eq_ok.2 ⟨all, hall, rfl⟩⟩

end code

/-! ### Graphs one after the other -/

/-- Dropping blank fragments loses no solid line. -/
theorem flatMap_solidLines_filter (all : List String) (g : List Char → List Char) :
    (all.filter (!Fragment.isBlank ·)).flatMap (fun text => (solidLines text.toList).map g) =
      all.flatMap fun text => (solidLines text.toList).map g := by
  induction all with
  | nil => rfl
  | cons text rest ih =>
    cases hblank : Fragment.isBlank text with
    | true =>
      have hsolid : solidLines text.toList = [] := Fragment.solidLines_of_isBlankText hblank
      rw [List.filter_cons_of_neg (by simp [hblank]), ih, List.flatMap_cons, hsolid, List.map_nil,
        List.nil_append]
    | false =>
      rw [List.filter_cons_of_pos (by simp [hblank]), List.flatMap_cons, ih, List.flatMap_cons]

/-- The solid lines of code are those of the fragments, in order, without the blanks at their
    ends. -/
theorem solidLines_codeOf {resolve : Resolver} {layers : List Layer} {all : List String}
    {code : String} (hall : layers.mapM (fragment resolve) = .ok all)
    (hcode : codeOf resolve layers none = .ok code) :
    solidLines code.toList = all.flatMap fun text => (solidLines text.toList).map Text.trimEnd := by
  obtain ⟨all', hall', rfl⟩ := codeOf_eq_ok.1 hcode
  obtain rfl : all' = all := Except.ok.inj (hall'.symm.trans hall)
  rw [Fragment.solidLines_assemble, flatMap_solidLines_filter]

/-- Two graphs, one after the other, yield code exactly if each does, and its solid lines are those
    of the first followed by those of the second. The failure of the whole is that of the first
    graph, or else of the second: it is the failure of the first layer that fails. -/
theorem codeOf_append (resolve : Resolver) (xs ys : List Layer) :
    ((∃ c, codeOf resolve (xs ++ ys) none = .ok c) ↔
      (∃ a, codeOf resolve xs none = .ok a) ∧ ∃ b, codeOf resolve ys none = .ok b) ∧
    (∀ a b c, codeOf resolve xs none = .ok a → codeOf resolve ys none = .ok b →
      codeOf resolve (xs ++ ys) none = .ok c →
        solidLines c.toList = solidLines a.toList ++ solidLines b.toList) ∧
    (∀ failure, codeOf resolve (xs ++ ys) none = .error failure ↔
      codeOf resolve xs none = .error failure ∨
        (∃ a, codeOf resolve xs none = .ok a) ∧ codeOf resolve ys none = .error failure) ∧
    (∀ failure, codeOf resolve (xs ++ ys) none = .error failure ↔
      ∃ before layer after, xs ++ ys = before ++ layer :: after ∧
        (∀ earlier ∈ before, ∃ text, (earlier.part resolve).code = .ok text) ∧
          (layer.part resolve).code = .error failure) := by
  -- all four follow from the walk over the layers, which is a walk over both lists
  refine ⟨?_, ?_, ?_, ?_⟩
  · rw [codeOf_isOk_iff, codeOf_isOk_iff, codeOf_isOk_iff, Result.mapM_isOk_iff,
      Result.mapM_isOk_iff, Result.mapM_isOk_iff, List.forall_mem_append]
  · intro a b c ha hb hc
    obtain ⟨as, has, _⟩ := codeOf_eq_ok.1 ha
    obtain ⟨bs, hbs, _⟩ := codeOf_eq_ok.1 hb
    have hall : (xs ++ ys).mapM (fragment resolve) = .ok (as ++ bs) :=
      Result.mapM_append_eq_ok.2 ⟨as, bs, has, hbs, rfl⟩
    rw [solidLines_codeOf hall hc, solidLines_codeOf has ha, solidLines_codeOf hbs hb,
      List.flatMap_append]
  · intro failure
    rw [codeOf_eq_error, codeOf_eq_error, codeOf_eq_error, codeOf_isOk_iff,
      Result.mapM_append_eq_error]
    apply or_congr Iff.rfl
    exact exists_and_right
  · intro failure
    rw [codeOf_eq_error, Result.mapM_eq_error]
    rfl

end Program

end LayerGraph
