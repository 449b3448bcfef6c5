import LayerGraph.Plugin

/-! # Programs

    The code of a graph: the fragments of its layers in order, without those that are blank, put
    together into tidy code. The first layer that fails is the failure of the whole. Besides the
    code a program tells which import lines and packages it needs.
-/

namespace LayerGraph

open Fragment (Formatter)

/-- A program and what it needs. -/
structure Program where
  code : String
  imports : List String
  dependencies : List String
deriving DecidableEq, Repr

namespace Program

/-- The fragments of layers, in order. -/
def fragments (resolve : Resolver) (layers : List Layer) : Except Failure (List String) :=
  (Layer.parts resolve layers).mapM (·.code)

/-- The code of layers. -/
def codeOf (resolve : Resolver) (layers : List Layer) (formatter : Option Formatter) :
    Except Failure String := do
  let all ← fragments resolve layers
  return Fragment.assemble (all.filter (!Fragment.isBlank ·)) formatter

/-- The code of a graph document. -/
def generate (resolve : Resolver) (document : Value) (formatter : Option Formatter) :
    Except Failure String := do
  let layers ← (Document.layers document).mapError .graph
  codeOf resolve layers formatter

/-- The program of layers. The import lines stand at its head if they are asked for. -/
def ofLayers (resolve : Resolver) (layers : List Layer) (includeImports : Bool)
    (formatter : Option Formatter) : Except Failure Program := do
  let body ← codeOf resolve layers none
  let metadata ← (collectMetadata resolve layers).mapError .graph
  let plain := if includeImports then Fragment.withImports body metadata.imports else body
  let code := match formatter with
    | none => plain
    | some format => Fragment.assemble [plain] (some format)
  return ⟨code, metadata.imports, metadata.dependencies⟩

/-- The program of a graph document. -/
def build (resolve : Resolver) (document : Value) (includeImports : Bool)
    (formatter : Option Formatter) : Except Failure Program := do
  let layers ← (Document.layers document).mapError .graph
  ofLayers resolve layers includeImports formatter

end Program

end LayerGraph
