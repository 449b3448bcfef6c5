import LayerGraph.Document
import LayerGraph.Json.Reader
import LayerGraph.Path
import LayerGraph.Stack
import LayerGraph.Yaml.Reader

/-! # Graph files

    A graph document in a file, in JSON or in YAML as the ending of the file's name says. The bytes
    have to be text in UTF-8 before the ending counts.
-/

namespace LayerGraph.GraphFile

/-- The text of a file, with all line ends alike. -/
def textOf (content : List UInt8) : Except Failure (List Char) :=
  match String.fromUTF8? ⟨content.toArray⟩ with
  | some text => .ok (Text.unifyBreaks text.toList)
  | none => .error .notText

/-- The error of a file that cannot be read. -/
def unreadable (name : String) (detail : Option String) : Failure :=
  .graph (.invalidGraph (.unreadable name detail) none none)

section reading
variable [Stack]

/-- The value of a JSON text. -/
def ofJson (name : String) (text : List Char) : Except Failure Value :=
  if Stack.isTooSmallFor text then .error .stackExhausted
  else
    match Json.read text with
    | .ok document => .ok document
    | .error (.fault fault remaining) =>
      .error (unreadable name (some (Json.faultText text fault remaining)))
    | .error .integerTooLong => .error (.noText .integerTooLong)
    | .error .loneSurrogate => .error .loneSurrogate

/-- The value of a YAML text. -/
def ofYaml (name : String) (text : List Char) : Except Failure Value :=
  if Stack.isTooSmallFor text then .error .stackExhausted
  else
    match Yaml.read text with
    | .ok document => .ok document
    | .error .malformed => .error (unreadable name none)
    | .error (.scalar fault) => .error (.scalar fault)
    | .error .loneSurrogate => .error .loneSurrogate

/-- The document in a file. -/
def document (path : Path) (content : List UInt8) : Except Failure Value := do
  let text ← textOf content
  let ending := path.ending
  if ending = ".yaml" ∨ ending = ".yml" then ofYaml path.name text
  else if ending = ".json" then ofJson path.name text
  else
    let shown := if ending.isEmpty then "(none)" else ending
    refuse (.invalidGraph (.unknownEnding shown) none none)

/-- The layers in a file. -/
def layers (path : Path) (content : List UInt8) : Except Failure (List Layer) := do
  Document.layersWithin (← document path content)

end reading

end LayerGraph.GraphFile
