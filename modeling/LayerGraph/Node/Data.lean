import LayerGraph.Node.Access
import LayerGraph.Node.Layers

/-! # Data sets

    A data set is a class with three methods. The code of each method is the user's; a method
    without code does nothing.
-/

namespace LayerGraph.Node.Dataset

open LayerGraph.Node

def typeKey : String := "Dataset"

/-- A list of names. -/
def names (items : List String) : Value := .tuple (items.map .str)

def schema : Schema :=
  [withStandard "className" .name (.str "CustomDataset"),
   withStandard "constructorParams" (.sequence .name) (names ["self"]),
   withStandard "initCode" .text (.str ""),
   withStandard "lenParams" (.sequence .name) (names ["self"]),
   withStandard "lenCode" .text (.str ""),
   withStandard "getitemParams" (.sequence .name) (names ["self", "idx"]),
   withStandard "getitemCode" .text (.str "")]

def template : String :=
  "class \x7bclass_name\x7d(Dataset):\n" ++
  "    def __init__(\x7bconstructor_params\x7d):\n" ++
  "\x7binit_body\x7d\n" ++
  "\n" ++
  "    def __len__(\x7blen_params\x7d):\n" ++
  "\x7blen_body\x7d\n" ++
  "\n" ++
  "    def __getitem__(\x7bgetitem_params\x7d):\n" ++
  "\x7bgetitem_body\x7d"

/-- The first of these keys that holds no names. -/
def firstEmpty (settings : Entries) (keys : List String) : Option String :=
  keys.find? fun key => (settings.texts key).isEmpty

/-- The class for validated settings. -/
def emitValid (settings : Entries) : Except Failure String :=
  match firstEmpty settings ["constructorParams", "lenParams", "getitemParams"] with
  | some key => refuse (.invalidSetting typeKey key .noParameter)
  | none =>
    renderSource typeKey template
      [("class_name", .str (settings.text "className")),
       ("constructor_params", .str (settings.commaTexts "constructorParams")),
       ("init_body", .str (Fragment.body (settings.text "initCode") 2)),
       ("len_params", .str (settings.commaTexts "lenParams")),
       ("len_body", .str (Fragment.body (settings.text "lenCode") 2)),
       ("getitem_params", .str (settings.commaTexts "getitemParams")),
       ("getitem_body", .str (Fragment.body (settings.text "getitemCode") 2))]

/-- The code of a data set. -/
def emit (given : Value) (inside : Inside) : Except Failure String := do
  refuseChild typeKey inside
  let settings ← schema.parseValue typeKey given
  emitValid settings

def info : NodeInfo where
  typeKey := typeKey
  name := "PyTorch NN Dataset"
  category := .dataset
  description := "Custom map-style dataset class."
  inputLines := 0
  outputLines := 1
  secondaryInputLines := 0
  schema := schema
  imports := ["from torch.utils.data import Dataset"]
  dependencies := ["torch"]

def plugin : Plugin := ⟨info, emit⟩

end LayerGraph.Node.Dataset
