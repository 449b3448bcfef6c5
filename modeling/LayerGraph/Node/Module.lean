import LayerGraph.Flow.Binding
import LayerGraph.Node.Data

/-! # Modules

    A module is a class whose attributes are the layers inside. Each is bound to the name it asks
    for, or to a numbered one. The data flow becomes the body of `forward`, with the names of layers
    bound to the attributes. Without a data flow, and with a single parameter, the layers are
    chained in order.
-/

namespace LayerGraph.Node.Module

open LayerGraph.Node

def typeKey : String := "NNModule"

def schema : Schema :=
  [withStandard "className" .name (.str "NeuralNetwork"),
   withStandard "constructorParams" (.sequence .name) (Dataset.names []),
   withStandard "forwardParams" (.sequence .name) (Dataset.names ["x"]),
   withStandard "dataFlow" .text (.str "")]

def template : String :=
  "class \x7bclass_name\x7d(nn.Module):\n" ++
  "    def __init__(\x7binit_params\x7d):\n" ++
  "\x7binit_body\x7d\n" ++
  "\n" ++
  "    def forward(\x7bforward_params\x7d):\n" ++
  "\x7bforward_body\x7d"

/-- Refuses what stands inside a module. -/
def refuseInside {α : Type} (reason : Reason) : Except Failure α :=
  refuse (.invalidSetting typeKey "child" reason)

/-! ### Attributes -/

/-- The name of the layer at an index that asks for none. -/
def standardName (index : Nat) : String := s!"layer_{index}"

/-- The name that a layer asks for, or its standard name. A value that counts as false asks for
    none. -/
def wantedName (index : Nat) (settings : Entries) : Value :=
  match settings.get? "variableName" with
  | some wanted => if wanted.truthy then wanted else .str (standardName index)
  | none => .str (standardName index)

/-- Whether a name can be that of an attribute. -/
def isAttribute (name : String) : Bool := Text.isName name && name != "self"

/-- The name of the layer at an index, if it can be that of an attribute. -/
def attributeName (index : Nat) (settings : Entries) : Except Failure String :=
  let wanted := wantedName index settings
  match wanted.text?.filter isAttribute with
  | some name => .ok name
  | none => do
    let shown ← orNoText wanted.quoted
    refuseInside (.childName index shown)

/-- The settings of a layer that is bound to an attribute: it is assigned to no variable of its
    own. -/
def boundSettings (info : NodeInfo) (settings : Entries) : Entries :=
  let others := settings.erase "variableName"
  if info.schema.standards.any (·.1 == "variableName") then others.set "variableName" .null
  else others

/-- Code without the blanks around it. -/
def trimmed (code : String) : String := String.ofList (Text.trim code.toList)

/-- The attribute for the layer at an index, after those with the given names: its name and the
    expression it is bound to. -/
def boundPart (index : Nat) (known : List String) (part : Part) :
    Except Failure (String × String) := do
  let settings := part.layer.settings.getD []
  let name ← attributeName index settings
  if known.contains name then refuseInside (.duplicateAttribute name)
  let info ← part.info.mapError .graph
  let code ← part.codeUnder (.ofEntries (boundSettings info settings))
  let expression := trimmed code
  if expression.contains '\n' then refuseInside (.notExpression index part.layer.type)
  return (name, expression)

/-- The attributes for layers, numbered from `index` on, after those with the given names. -/
def boundParts (index : Nat) (known : List String) :
    List Part → Except Failure (List (String × String))
  | [] => .ok []
  | part :: rest => do
    let first ← boundPart index known part
    let others ← boundParts (index + 1) (known ++ [first.1]) rest
    return first :: others

/-- The statement that binds an attribute. -/
def binding (bound : String × String) : String := "self." ++ bound.1 ++ " = " ++ bound.2

/-! ### Forward -/

/-- The statement that passes a value through a layer. -/
def chainLink (x : String) (name : String) : String := x ++ " = self." ++ name ++ "(" ++ x ++ ")"

/-- The statements of `forward`. -/
def forward (settings : Entries) (names : List String) : Except Failure String :=
  let dataFlow := settings.text "dataFlow"
  if !Fragment.isBlank dataFlow then
    (Flow.bind names dataFlow).mapError fun reason =>
      .graph (.invalidSetting typeKey "dataFlow" reason)
  else
    match settings.texts "forwardParams" with
    | [x] => .ok (Fragment.stack (names.map (chainLink x) ++ ["return " ++ x]))
    | _ => .ok ""

/-! ### The class -/

/-- The class for validated settings, with these attributes and these statements in `forward`. -/
def render (settings : Entries) (bound : List (String × String)) (flow : String) :
    Except Failure String :=
  renderSource typeKey template
    [("class_name", .str (settings.text "className")),
     ("init_params", .str (", ".intercalate ("self" :: settings.texts "constructorParams"))),
     ("init_body",
       .str (Fragment.indent (Fragment.stack ("super().__init__()" :: bound.map binding)) 2)),
     ("forward_params", .str (", ".intercalate ("self" :: settings.texts "forwardParams"))),
     ("forward_body", .str (Fragment.body flow 2))]

/-- The code of a module. -/
def emit (given : Value) (inside : Inside) : Except Failure String := do
  let settings ← schema.parseValue typeKey given
  let parts ← inside.parts.mapError .graph
  let bound ← boundParts 0 [] parts
  let flow ← forward settings (bound.map (·.1))
  render settings bound flow

def info : NodeInfo where
  typeKey := typeKey
  name := "PyTorch NN Module"
  category := .model
  description := "A torch.nn.Module subclass built from nested layers."
  inputLines := 0
  outputLines := 1
  secondaryInputLines := 0
  schema := schema
  imports := ["import torch", "import torch.nn as nn"]
  dependencies := ["torch"]

def plugin : Plugin := ⟨info, emit⟩

end LayerGraph.Node.Module
