import LayerGraph.Document
import LayerGraph.Fragment
import LayerGraph.Template

/-! # Plugins

    A plugin turns layers of one type into code. It is told the settings of the layer and what the
    layer holds inside, and answers with a fragment of code or a failure. It sees the layers inside
    as *parts*: each knows its layer, what its type tells about itself, and the code that it yields
    under given settings. So a plugin can embed its parts without knowing the other plugins.
-/

namespace LayerGraph

/-! ### Node types -/

/-- The role of a node type in a training program. -/
abbrev Category := String

namespace Category

def custom : Category := "custom"
def trainer : Category := "trainer"
def model : Category := "model"
def modelLayer : Category := "model_layer"
def dataloader : Category := "dataloader"
def dataset : Category := "dataset"
def optimizer : Category := "optimizer"
def report : Category := "report"
def function : Category := "function"
def lossFunction : Category := "loss_function"

end Category

/-- What a node type tells about itself. -/
structure NodeInfo where
  typeKey : String
  name : String
  category : Category
  description : String
  inputLines : Int
  outputLines : Int
  secondaryInputLines : Int
  schema : Schema
  /-- The import lines that its code needs. -/
  imports : List String
  /-- The packages that its code needs. -/
  dependencies : List String

namespace NodeInfo

/-- The first line of a description that has blanks around it. -/
def firstLine (doc : String) : String :=
  String.ofList ((Text.lines (Text.trim doc.toList)).headD [])

mutual

/-- A value in which all tuples are lists. -/
def plain : Value → Value
  | .tuple items => .list (plainAll items)
  | .map entries => .map (plainEntries entries)
  | v => v

/-- Values in which all tuples are lists. -/
def plainAll : List Value → List Value
  | [] => []
  | v :: rest => plain v :: plainAll rest

/-- Entries in whose values all tuples are lists. -/
def plainEntries : List (Value × Value) → List (Value × Value)
  | [] => []
  | (key, value) :: rest => (key, plain value) :: plainEntries rest

end

/-- A list of texts as a value. -/
def textList (texts : List String) : Value := .list (texts.map .str)

/-- What a node type tells, as the object that callers are shown. -/
def toEntries (info : NodeInfo) : Entries :=
  [("type", .str info.typeKey), ("name", .str info.name), ("node_type", .str info.category),
   ("description", .str info.description), ("input_lines", .int info.inputLines),
   ("output_lines_count", .int info.outputLines),
   ("secondary_input_lines_count", .int info.secondaryInputLines),
   ("default_settings", plain (.ofEntries info.schema.standards)),
   ("required_settings", textList info.schema.required), ("imports", textList info.imports),
   ("dependencies", textList info.dependencies)]

end NodeInfo

/-! ### Metadata -/

/-- What code needs: import lines and packages, each once. -/
structure Metadata where
  imports : List String
  dependencies : List String
deriving DecidableEq, Repr

/-- What the code of nodes with these types needs. -/
def Metadata.ofInfos (infos : List NodeInfo) : Metadata :=
  ⟨Text.distinct (infos.flatMap (·.imports)),
   Text.distinct (infos.flatMap (·.dependencies))⟩

/-! ### Plugins -/

/-- A layer inside another, as the plugin of the outer layer sees it. -/
structure Part where
  layer : Layer
  info : Except GraphError NodeInfo
  /-- The code of the layer under given settings. -/
  codeUnder : Value → Except Failure String

/-- The code of a part under its own settings. -/
def Part.code (part : Part) : Except Failure String :=
  part.codeUnder (settingsValue part.layer.settings)

/-- What a layer holds inside. -/
structure Inside where
  /-- Whether anything was given. -/
  given : Bool
  /-- The parts, or what is wrong with what was given. -/
  parts : Except GraphError (List Part)
  /-- What the code of the parts, and of all layers inside them, needs. -/
  metadata : Except GraphError Metadata

/-- A node type with its way to turn layers into code. -/
structure Plugin where
  info : NodeInfo
  /-- The code for settings and what a layer holds inside. -/
  emit : Value → Inside → Except Failure String

/-- The plugin for a type, or why there is none. -/
abbrev Resolver := String → Except GraphError Plugin

/-! ### Layers as parts -/

mutual

/-- The number of layers in a layer. -/
def Layer.count : Layer → Nat
  | .mk _ _ child => child.count + 1

/-- The number of layers in a child. -/
def Child.count : Child → Nat
  | .none => 0
  | .one layer => layer.count
  | .many layers => Layer.countAll layers

/-- The number of layers in a list of them. -/
def Layer.countAll : List Layer → Nat
  | [] => 0
  | layer :: rest => layer.count + Layer.countAll rest

end

theorem Layer.countAll_append (xs ys : List Layer) :
    Layer.countAll (xs ++ ys) = Layer.countAll xs + Layer.countAll ys := by
  induction xs with
  | nil => simp [Layer.countAll]
  | cons x xs ih => simp [Layer.countAll, ih, Nat.add_assoc]

theorem Child.countAll_layers (child : Child) : Layer.countAll child.layers = child.count := by
  cases child <;> simp [Child.layers, Child.count, Layer.countAll]

theorem Layer.count_eq (layer : Layer) : layer.count = layer.child.count + 1 := by
  cases layer; rfl

/-- What the types of layers, and of the layers inside them, tell about themselves: each layer is
    followed by those inside it. The first type without a plugin is to blame. -/
def visit (resolve : Resolver) : List Layer → Except GraphError (List NodeInfo)
  | [] => .ok []
  | layer :: waiting => do
    let plugin ← resolve layer.type
    let others ← visit resolve (layer.child.layers ++ waiting)
    return plugin.info :: others
termination_by layers => Layer.countAll layers
decreasing_by
  simp [Layer.countAll, Layer.countAll_append, Child.countAll_layers, Layer.count_eq]

/-- What the code of layers needs. -/
def collectMetadata (resolve : Resolver) (layers : List Layer) : Except GraphError Metadata :=
  Metadata.ofInfos <$> visit resolve layers

/-- What is inside, when it was read as layers. -/
def Inside.ofParts (resolve : Resolver) (given : Bool) (parts : List Part) : Inside :=
  ⟨given, .ok parts, collectMetadata resolve (parts.map (·.layer))⟩

mutual

/-- A layer as a part. -/
def Layer.part (resolve : Resolver) : Layer → Part
  | .mk type settings child =>
    let plugin := resolve type
    let inside := child.inside resolve
    { layer := .mk type settings child
      info := plugin.map (·.info)
      codeUnder := fun given => do
        let plugin ← plugin.mapError .graph
        plugin.emit given inside }

/-- What a layer holds, as its plugin sees it. -/
def Child.inside (resolve : Resolver) : Child → Inside
  | .none => .ofParts resolve false []
  | .one layer => .ofParts resolve true [layer.part resolve]
  | .many layers => .ofParts resolve (!layers.isEmpty) (Layer.parts resolve layers)

/-- Layers as parts. -/
def Layer.parts (resolve : Resolver) : List Layer → List Part
  | [] => []
  | layer :: rest => layer.part resolve :: Layer.parts resolve rest

end

/-- What a layer holds, when it is given as a value that has not been read yet. -/
def Inside.ofValue (resolve : Resolver) (value : Value) : Inside :=
  match Document.childLayers value with
  | .ok layers => .ofParts resolve value.truthy (Layer.parts resolve layers)
  | .error error => ⟨value.truthy, .error error, .error error⟩

end LayerGraph
