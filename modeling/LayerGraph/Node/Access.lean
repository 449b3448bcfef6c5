import LayerGraph.Node.Constructor

/-! # Reading validated settings

    Validated settings hold a value of the right shape under every key of their schema. These
    functions read them by key; under another key, or for another shape, they answer with the empty
    value of the type they promise.
-/

namespace LayerGraph.Entries

/-- The text under a key. -/
def text (settings : Entries) (key : String) : String :=
  match settings.get? key with
  | some (.str s) => s
  | _ => ""

/-- The text under a key, unless the key holds null. -/
def text? (settings : Entries) (key : String) : Option String :=
  match settings.get? key with
  | some (.str s) => some s
  | _ => none

/-- The truth value under a key. -/
def flag (settings : Entries) (key : String) : Bool :=
  match settings.get? key with
  | some (.bool b) => b
  | _ => false

/-- The texts under a key. -/
def texts (settings : Entries) (key : String) : List String :=
  match settings.get? key with
  | some (.tuple items) => items.filterMap Value.text?
  | _ => []

/-- The texts under a key, separated by commas. -/
def commaTexts (settings : Entries) (key : String) : String := ", ".intercalate (settings.texts key)

end LayerGraph.Entries
