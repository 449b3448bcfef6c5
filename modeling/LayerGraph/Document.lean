import LayerGraph.Layer
import LayerGraph.Setting.Schema

/-! # Graph documents

    A document holds layers in one of three forms: a list of layers, an object with the list under
    `layers`, or an object with a layer under each key. A layer is an object with a `type`, and
    perhaps `settings` and a `child`; other keys do not count. The first malformed layer is to
    blame, and in it the first fault: type, then settings, then child.
-/

namespace LayerGraph

/-- What is wrong with a layer, and at which path of keys. -/
structure LayerFault where
  path : List String
  fault : Mismatch
deriving DecidableEq, Repr

namespace LayerFault

/-- The same fault further inside. -/
def inside (keys : List String) (f : LayerFault) : LayerFault := ⟨keys ++ f.path, f.fault⟩

end LayerFault

namespace Document

/-! ### Members -/

/-- The type of a layer. -/
def typeOf (members : List (Value × Value)) : Except LayerFault String :=
  match Value.member? "type" members with
  | none => .error ⟨["type"], .missing⟩
  | some v => (Shape.textOf v).mapError fun fault => ⟨["type"], fault⟩

/-- The entries of settings laid over others. Their keys have to be text, and keys that differ may
    have the same text, as a string and its bytes have: the last value counts, at the first
    place. -/
def entriesOver (known : Entries) : List (Value × Value) → Except LayerFault Entries
  | [] => .ok known
  | (key, value) :: rest => do
    let name ← (Shape.textOf key).mapError fun fault =>
      ⟨["settings", Schema.keyText key, "[key]"], fault⟩
    entriesOver (known.set name value) rest

/-- The entries of settings. -/
def entriesOf (entries : List (Value × Value)) : Except LayerFault Entries := entriesOver [] entries

/-- The settings of a layer. -/
def settingsOf (members : List (Value × Value)) : Except LayerFault (Option Entries) :=
  match Value.member? "settings" members with
  | none => .ok none
  | some .null => .ok none
  | some (.map entries) => some <$> entriesOf entries
  | some _ => .error ⟨["settings"], .notMapping⟩

/-! ### Layers -/

/-- The fault of something that is no object where a layer is expected. -/
def notLayer : LayerFault := ⟨[], .notLayer⟩

/-- A layer from its members and what was read as its child. -/
def ofMembers (members : List (Value × Value)) (child : Except LayerFault Child) :
    Except LayerFault Layer := do
  let type ← typeOf members
  let settings ← settingsOf members
  return .mk type settings (← child)

/-- The child that a single layer is. -/
def oneOf (layer : Except LayerFault Layer) : Except LayerFault Child :=
  (layer.map Child.one).mapError (·.inside ["child", "Layer"])

/-- The child that a list of layers is. A list with a malformed item counts as something that is no
    layer. -/
def manyOf (layers : Except LayerFault (List Layer)) : Except LayerFault Child :=
  match layers with
  | .ok layers => .ok (.many layers)
  | .error _ => .error (notLayer.inside ["child", "Layer"])

mutual

/-- The layer that a value is. -/
def layerOf : Value → Except LayerFault Layer
  | .map members => ofMembers members (childIn members)
  | _ => .error notLayer

/-- The child among the members of a layer. -/
def childIn : List (Value × Value) → Except LayerFault Child
  | [] => .ok .none
  | (key, value) :: rest => if key.text? = some "child" then childOf value else childIn rest

/-- The child that a value is. -/
def childOf : Value → Except LayerFault Child
  | .null => .ok .none
  | .map members => oneOf (ofMembers members (childIn members))
  | .list items => manyOf (layersOf items)
  | .tuple items => manyOf (layersOf items)
  | .set items => manyOf (layersOf items)
  | _ => .error (notLayer.inside ["child", "Layer"])

/-- The layers that values are. -/
def layersOf : List Value → Except LayerFault (List Layer)
  | [] => .ok []
  | item :: rest => do
    let first ← layerOf item
    let others ← layersOf rest
    return first :: others

end

/-! ### Graphs -/

/-- The values that a document gives as layers. -/
def itemsOf : Value → Except GraphError (List Value)
  | .list items => .ok items
  | .map members =>
    match Value.member? "layers" members with
    | some (.list items) => .ok items
    | _ => .ok (members.map (·.2))
  | v => .error (.invalidGraph (.notGraph v.typeName) none none)

/-- The layers of a document. -/
def layers (document : Value) : Except GraphError (List Layer) := do
  let items ← itemsOf document
  (layersOf items).mapError fun f => .invalidGraph (.layer f.path f.fault) none none

/-- The layers of a child that is given as a value: a layer, or a sequence of layers. -/
def childLayers (child : Value) : Except GraphError (List Layer) :=
  let items := match child with
    | .null => []
    | .list items => items
    | .tuple items => items
    | v => [v]
  (layersOf items).mapError fun f => .invalidGraph (.child f.fault) none none

end Document

end LayerGraph
