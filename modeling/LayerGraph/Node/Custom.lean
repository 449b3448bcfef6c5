import LayerGraph.Node.Constructor
import LayerGraph.Registry

/-! # Custom nodes

    A node type that is described instead of built in: it yields a fixed text, or a template whose
    placeholders take given values, which the settings of a layer may replace or add to.
-/

namespace LayerGraph

/-- A described node type. -/
structure CustomNode where
  /-- The name that the description goes by in error messages. -/
  className : String
  info : NodeInfo
  template : Option Template
  values : Entries
  /-- The code, if it is always the same. -/
  fixed : Option String

namespace CustomNode

/-- The names among settings that are given for a template. Only names can be given, and not the
    one that the plugin itself goes by. -/
def namesOf (given : Value) : Except Failure Entries :=
  if !given.truthy then .ok []
  else match given with
    | .map entries =>
      let named := Schema.named entries
      if named.length = entries.length then .ok named else .error .notNames
    | _ => .error .notNames

/-- The template with the values, and settings over them. -/
def render (node : CustomNode) (given : Value) : Except Failure String := do
  let names ← namesOf given
  let values := Schema.merge node.values names
  if values.any (·.1 == "self") then throw .notNames
  match node.template with
  | none => throw (.noTemplate node.className)
  | some template => template.render values

/-- The code of a described node. -/
def emit (node : CustomNode) (given : Value) (_ : Inside) : Except Failure String :=
  match node.fixed with
  | some code => .ok code
  | none => node.render given

def plugin (node : CustomNode) : Plugin := ⟨node.info, node.emit⟩

end CustomNode

end LayerGraph
