import LayerGraph.Node.Data

/-! # Pipelines

    A pipeline is a whole program: the code of the layers inside, one blank line apart, headed by
    the import lines that they need. A class for data or for a model is followed by an instance of
    it, unless the pipeline names no variable for one.
-/

namespace LayerGraph.Node.Pipeline

open LayerGraph.Node

def typeKey : String := "Pipeline"

def schema : Schema :=
  [withStandard "includeImports" .boolean (.bool true),
   withStandard "datasetVariable" (.optional .name) (.str "dataset"),
   withStandard "modelVariable" (.optional .name) (.str "model")]

def template : String := "\x7bsection\x7d\n\n\x7bvariable\x7d = \x7bclass_name\x7d()"

/-- The variable for an instance of a class of this category. -/
def instanceVariable (settings : Entries) (category : Category) : Option String :=
  if category = .dataset then settings.text? "datasetVariable"
  else if category = .model then settings.text? "modelVariable"
  else none

/-- The name of the class that a part defines, if it defines one. -/
def className? (info : NodeInfo) (settings : Entries) : Option Value :=
  (info.schema.standards.get? "className").map fun standard =>
    match settings.get? "className" with
    | some given => if given.truthy then given else standard
    | none => standard

/-- The section of a part: its code, followed by an instance of the class if it defines one. A part
    without code has no section. -/
def sectionOf (settings : Entries) (part : Part) : Except Failure (Option String) := do
  let code ← part.code
  let text := Fragment.trimBreaks code
  if Fragment.isBlank text then return none
  let info ← part.info.mapError .graph
  match instanceVariable settings info.category,
      className? info (part.layer.settings.getD []) with
  | some variableName, some className =>
    some <$> renderSource typeKey template
      [("section", .str text), ("variable", .str variableName), ("class_name", className)]
  | _, _ => return some text

/-- The code of a pipeline. -/
def emit (given : Value) (inside : Inside) : Except Failure String := do
  let settings ← schema.parseValue typeKey given
  let parts ← inside.parts.mapError .graph
  let sections ← parts.mapM (sectionOf settings)
  let body := "\n\n".intercalate (sections.filterMap id)
  if settings.flag "includeImports" then do
    let metadata ← inside.metadata.mapError .graph
    return Fragment.withImports body metadata.imports
  else return body

def info : NodeInfo where
  typeKey := typeKey
  name := "PyTorch Pipeline"
  category := .custom
  description := "Complete training program composed from nested sections."
  inputLines := 7
  outputLines := 1
  secondaryInputLines := 0
  schema := schema
  imports := []
  dependencies := []

def plugin : Plugin := ⟨info, emit⟩

end LayerGraph.Node.Pipeline
