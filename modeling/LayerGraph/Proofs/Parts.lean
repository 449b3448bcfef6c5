import LayerGraph.Node.Constructor

/-! # Layers and their parts

    Layers form trees. A property that a layer inherits from the layers inside it holds of every
    layer (`Layer.induct`). What a plugin is told about the inside of a layer is a function of the
    layers inside: the parts are those layers, one by one, and something was given exactly if there
    is one.
-/

namespace LayerGraph

/-! ### Induction over trees of layers -/

theorem Layer.count_le_countAll {layer : Layer} {layers : List Layer} (h : layer ∈ layers) :
    layer.count ≤ Layer.countAll layers := by
  induction layers with
  | nil => simp at h
  | cons first rest ih =>
    rw [Layer.countAll]
    rcases List.mem_cons.1 h with rfl | hrest
    · exact Nat.le_add_right _ _
    · exact Nat.le_trans (ih hrest) (Nat.le_add_left _ _)

/-- A layer inside another is smaller. -/
theorem Layer.count_lt_of_mem_child {layer inner : Layer} (h : inner ∈ layer.child.layers) :
    inner.count < layer.count := by
  have hle := Layer.count_le_countAll h
  rw [Child.countAll_layers] at hle
  rw [Layer.count_eq layer]
  omega

/-- What a layer inherits from the layers inside it holds of every layer. -/
theorem Layer.induct {P : Layer → Prop}
    (inherits : ∀ layer, (∀ inner ∈ layer.child.layers, P inner) → P layer) (layer : Layer) :
    P layer := by
  -- the layers inside stand in a list of their own type, so the induction is on how many there are
  suffices h : ∀ n, ∀ layer : Layer, layer.count ≤ n → P layer from
    h layer.count layer (Nat.le_refl _)
  intro n
  induction n with
  | zero =>
    intro layer hle
    rw [Layer.count_eq] at hle
    omega
  | succ n ih =>
    intro layer hle
    apply inherits
    intro inner hinner
    have hlt := Layer.count_lt_of_mem_child hinner
    exact ih inner (by omega)

/-! ### Parts -/

section parts
variable (resolve : Resolver)

theorem Layer.parts_eq_map (layers : List Layer) :
    Layer.parts resolve layers = layers.map (·.part resolve) := by
  induction layers with
  | nil => rfl
  | cons layer rest ih => rw [Layer.parts, ih, List.map_cons]

@[simp] theorem Layer.part_layer (layer : Layer) : (layer.part resolve).layer = layer := by
  cases layer
  rfl

@[simp] theorem Layer.part_info (layer : Layer) :
    (layer.part resolve).info = (resolve layer.type).map (·.info) := by
  cases layer
  rfl

/-- The code of a layer under given settings is what its plugin makes of them and of what the layer
    holds inside. -/
theorem Layer.part_codeUnder (layer : Layer) (given : Value) :
    (layer.part resolve).codeUnder given = (do
      let plugin ← (resolve layer.type).mapError .graph
      plugin.emit given (layer.child.inside resolve)) := by
  cases layer
  rfl

theorem Child.inside_given (child : Child) :
    (child.inside resolve).given = !child.layers.isEmpty := by
  cases child <;> rfl

theorem Child.inside_parts (child : Child) :
    (child.inside resolve).parts = .ok (child.layers.map (·.part resolve)) := by
  cases child with
  | none => rfl
  | one layer => rfl
  | many layers =>
    show Except.ok (Layer.parts resolve layers) = _
    rw [Layer.parts_eq_map]
    rfl

theorem Child.inside_metadata (child : Child) :
    (child.inside resolve).metadata = collectMetadata resolve child.layers := by
  have hlayers : ∀ layers : List Layer,
      (layers.map (·.part resolve)).map (·.layer) = layers := by
    intro layers
    rw [List.map_map]
    exact (List.map_congr_left fun layer _ => Layer.part_layer resolve layer).trans (List.map_id' _)
  cases child with
  | none => rfl
  | one layer =>
    show collectMetadata resolve [(layer.part resolve).layer] = _
    rw [Layer.part_layer]
    rfl
  | many layers =>
    show collectMetadata resolve ((Layer.parts resolve layers).map (·.layer)) = _
    rw [Layer.parts_eq_map, hlayers]
    rfl

end parts

/-- A node that takes nothing inside goes on only if nothing is given. -/
theorem refuseChild_eq_ok {nodeType : String} {inside : Inside} {done : Unit} :
    refuseChild nodeType inside = .ok done ↔ inside.given = false := by
  unfold refuseChild
  cases inside.given <;> simp [refuse]

end LayerGraph
