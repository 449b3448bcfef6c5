import LayerGraph.Proofs.Parts
import LayerGraph.Proofs.Result

/-! # Layers in preorder

    The *preorder* of a layer is the layer itself, followed by those of the layers inside, one after
    the other. A visit keeps the layers that wait in a stack and never looks at a tree as a whole;
    the main statement says that it comes to the layers in preorder all the same
    (`visit_eq_mapM`).
-/

namespace LayerGraph

mutual

/-- A layer and all layers inside it, each in front of those that it holds. -/
def Layer.preorder : Layer → List Layer
  | .mk type settings child => .mk type settings child :: child.preorder

/-- The layers in what a layer holds, at every depth. -/
def Child.preorder : Child → List Layer
  | .none => []
  | .one layer => layer.preorder
  | .many layers => Layer.preorders layers

/-- The preorders of layers, one after the other. -/
def Layer.preorders : List Layer → List Layer
  | [] => []
  | layer :: rest => layer.preorder ++ Layer.preorders rest

end

@[simp] theorem Layer.preorders_nil : Layer.preorders [] = [] := rfl

@[simp] theorem Layer.preorders_cons (layer : Layer) (rest : List Layer) :
    Layer.preorders (layer :: rest) = layer.preorder ++ Layer.preorders rest := rfl

theorem Layer.preorders_eq_flatMap (layers : List Layer) :
    Layer.preorders layers = layers.flatMap Layer.preorder := by
  induction layers with
  | nil => rfl
  | cons layer rest ih => rw [Layer.preorders_cons, ih, List.flatMap_cons]

theorem Layer.mem_preorders {layers : List Layer} {node : Layer} :
    node ∈ Layer.preorders layers ↔ ∃ layer ∈ layers, node ∈ layer.preorder := by
  rw [Layer.preorders_eq_flatMap, List.mem_flatMap]

theorem Layer.preorders_append (xs ys : List Layer) :
    Layer.preorders (xs ++ ys) = Layer.preorders xs ++ Layer.preorders ys := by
  simp only [Layer.preorders_eq_flatMap, List.flatMap_append]

theorem Child.preorder_eq (child : Child) : child.preorder = Layer.preorders child.layers := by
  cases child with
  | none => rfl
  | one layer => exact (List.append_nil _).symm
  | many layers => rfl

theorem Layer.preorder_eq (layer : Layer) :
    layer.preorder = layer :: Layer.preorders layer.child.layers := by
  obtain ⟨type, settings, child⟩ := layer
  exact congrArg _ (Child.preorder_eq child)

/-- What is inside of a layer that is inside is inside. -/
theorem Layer.preorder_subset_of_mem {node : Layer} (layer : Layer) (h : node ∈ layer.preorder) :
    node.preorder ⊆ layer.preorder := by
  induction layer using Layer.induct with
  | inherits layer ih =>
    rw [Layer.preorder_eq, List.mem_cons] at h
    rcases h with rfl | h
    · exact List.Subset.refl _
    · obtain ⟨inner, hinner, hnode⟩ := Layer.mem_preorders.1 h
      intro other hother
      rw [Layer.preorder_eq]
      exact List.mem_cons_of_mem _
        (Layer.mem_preorders.2 ⟨inner, hinner, ih inner hinner hnode hother⟩)

section visit
variable (resolve : Resolver)

/-- What a type tells about itself, if it has a plugin. -/
def infoOf (type : String) : Except GraphError NodeInfo := (·.info) <$> resolve type

variable {resolve}

theorem infoOf_eq_ok {type : String} {info : NodeInfo} :
    infoOf resolve type = .ok info ↔ ∃ plugin, resolve type = .ok plugin ∧ plugin.info = info :=
  Result.map_eq_ok

theorem infoOf_eq_error {type : String} {error : GraphError} :
    infoOf resolve type = .error error ↔ resolve type = .error error :=
  Result.map_eq_error

/-- A visit is a walk over the preorder of the layers. -/
theorem visit_eq_mapM (layers : List Layer) :
    visit resolve layers = (Layer.preorders layers).mapM fun node => infoOf resolve node.type := by
  induction layers using visit.induct with
  | case1 =>
    rw [visit]
    rfl
  | case2 layer waiting ih =>
    -- the layers inside are laid on the stack, in front of those that wait
    have hsplit : Layer.preorders (layer :: waiting) =
        layer :: Layer.preorders (layer.child.layers ++ waiting) := by
      rw [Layer.preorders_cons, Layer.preorder_eq, Layer.preorders_append, List.cons_append]
    rw [visit, ih, hsplit, List.mapM_cons]
    unfold infoOf
    cases resolve layer.type <;> rfl

end visit

end LayerGraph
