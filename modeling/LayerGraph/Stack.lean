import LayerGraph.Document

/-! # Stacks

    What is nested is read, and turned into code, by calls within calls, and a stack has room for so
    many of them only. How many they are depends on the machine and on what else is on the stack, so
    a stack is known here by what is too much for it.
-/

namespace LayerGraph

/-- A stack, by what it has no room for. -/
class Stack where
  /-- Whether a text is nested too deeply to be read. -/
  isTooSmallFor : List Char → Bool
  /-- Whether a document is nested too deeply for its layers to be turned into code. -/
  isTooSmallToTranslate : Value → Bool

/-- A stack with room for everything. -/
instance Stack.unbounded : Stack := ⟨fun _ => false, fun _ => false⟩

/-- The layers of a document, if there is room for their code to be made. -/
def Document.layersWithin [Stack] (document : Value) : Except Failure (List Layer) :=
  if Stack.isTooSmallToTranslate document then .error .stackExhausted
  else (layers document).mapError .graph

end LayerGraph
