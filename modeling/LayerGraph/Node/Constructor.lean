import LayerGraph.Call
import LayerGraph.Plugin

/-! # Constructor nodes

    A node whose code is one constructor call, perhaps assigned to a variable. Such a node type is
    pure data: its settings, the callee, which setting feeds which argument, and a rule on the
    validated settings as a whole. Nothing may stand inside such a node.
-/

namespace LayerGraph

/-- An argument of a constructor, fed by a setting. -/
structure Argument where
  name : String
  key : String
  /-- Whether the text of the setting is code and not a string. -/
  raw : Bool := false

namespace Argument

/-- A text as code. -/
def asCode : Value → Value
  | .str s => .expr s
  | v => v

/-- The argument with its value. -/
def fed (settings : Entries) (argument : Argument) : String × Value :=
  let value := (settings.get? argument.key).getD .null
  (argument.name, if argument.raw then asCode value else value)

end Argument

/-- A node type whose code is a constructor call. -/
structure ConstructorNode where
  typeKey : String
  name : String
  category : Category
  description : String
  inputLines : Int := 1
  schema : Schema
  callee : String
  required : List Argument := []
  optional : List Argument := []
  /-- The values that arguments have anyway. -/
  suppressed : Entries := []
  positional : Bool := true
  /-- The fault of settings that are fine one by one and wrong together. -/
  rule : Entries → Option Schema.Fault := fun _ => none
  imports : List String := ["import torch", "import torch.nn as nn"]
  dependencies : List String := ["torch"]

/-- Refuses a node that holds anything. -/
def refuseChild (nodeType : String) (inside : Inside) : Except Failure Unit :=
  if inside.given then refuse (.invalidSetting nodeType "child" .childRefused) else .ok ()

/-- Reads a template and puts values in place of its placeholders. -/
def renderSource (name source : String) (values : Entries) : Except Failure String := do
  let template ← (Template.read source name).mapError .graph
  template.render values

namespace ConstructorNode

def info (node : ConstructorNode) : NodeInfo where
  typeKey := node.typeKey
  name := node.name
  category := node.category
  description := node.description
  inputLines := node.inputLines
  outputLines := 1
  secondaryInputLines := 0
  schema := node.schema
  imports := node.imports
  dependencies := node.dependencies

/-- The start of the statement that assigns the call to a variable, if a variable is named. -/
def assignment (settings : Entries) : String :=
  match settings.get? "variableName" with
  | some (.str target) => if target.isEmpty then "" else target ++ " = "
  | _ => ""

/-- The call for validated settings. -/
def emitValid (node : ConstructorNode) (settings : Entries) : Except Failure String := do
  let arguments ← orNoText (Call.arguments (node.required.map (·.fed settings))
    (node.optional.map (·.fed settings)) node.suppressed node.positional)
  renderSource node.typeKey "\x7bassignment\x7d\x7bcallee\x7d(\x7bargs\x7d)"
    [("assignment", .str (assignment settings)), ("callee", .str node.callee),
     ("args", .str arguments)]

/-- Refuses validated settings that break the rule of the node. -/
def checkRule (node : ConstructorNode) (settings : Entries) : Except Failure Unit :=
  match node.rule settings with
  | some fault => refuse (.invalidSetting node.typeKey fault.key fault.reason)
  | none => .ok ()

/-- The code of a node. -/
def emit (node : ConstructorNode) (given : Value) (inside : Inside) : Except Failure String := do
  refuseChild node.typeKey inside
  let settings ← node.schema.parseValue node.typeKey given
  node.checkRule settings
  node.emitValid settings

def plugin (node : ConstructorNode) : Plugin := ⟨node.info, node.emit⟩

end ConstructorNode

end LayerGraph
