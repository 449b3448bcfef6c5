import LayerGraph.Value

/-! # Layers

    A graph is a list of layers. A layer names a node type, may carry settings, and may hold one
    layer or a list of layers inside. Which of the two it holds is kept, so that a layer can be
    written back as it was read.
-/

namespace LayerGraph

mutual

/-- A node of a graph. -/
inductive Layer where
  | mk (type : String) (settings : Option Entries) (child : Child)

/-- What a layer holds inside. -/
inductive Child where
  | none
  | one (layer : Layer)
  | many (layers : List Layer)

end

instance : Inhabited Layer := ⟨.mk "" .none .none⟩

namespace Layer

/-- The node type that a layer names. -/
def type : Layer → String
  | .mk type _ _ => type

/-- The settings of a layer, if it has any. -/
def settings : Layer → Option Entries
  | .mk _ settings _ => settings

/-- What a layer holds inside. -/
def child : Layer → Child
  | .mk _ _ child => child

end Layer

/-- The layers inside, as a list. -/
def Child.layers : Child → List Layer
  | .none => []
  | .one layer => [layer]
  | .many layers => layers

/-- The settings of a layer as a value: null if it has none. -/
def settingsValue : Option Entries → Value
  | some settings => .ofEntries settings
  | none => .null

mutual

/-- A layer as a document. -/
def Layer.toValue : Layer → Value
  | .mk type settings child =>
    .ofEntries [("type", .str type), ("settings", settingsValue settings), ("child", child.toValue)]

/-- What a layer holds as a document. -/
def Child.toValue : Child → Value
  | .none => .null
  | .one layer => layer.toValue
  | .many layers => .list (Layer.toValues layers)

/-- Layers as documents. -/
def Layer.toValues : List Layer → List Value
  | [] => []
  | layer :: rest => layer.toValue :: Layer.toValues rest

end

end LayerGraph
