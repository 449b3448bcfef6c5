import LayerGraph.Error
import LayerGraph.Text.Distinct
import LayerGraph.Text.Identifier

/-! # Templates

    A template is text with placeholders: a name in braces. Doubled braces stand for single ones.
    A template is read once, into segments of text that may each be followed by a placeholder, and
    rendered as often as needed. A malformed template is refused when it is read: first for its
    braces, wherever they are, and then for the first placeholder that is not a plain name.
-/

namespace LayerGraph

/-- Text, and the placeholder behind it if there is one. -/
structure Segment where
  text : String
  placeholder : Option String
deriving DecidableEq, Repr

/-- A template that has been read. Its name is for error messages. -/
structure Template where
  name : String
  segments : List Segment
deriving DecidableEq, Repr

namespace Template

/-! ### Reading -/

/-- What stands behind the text of a segment: the end of the template, further text, or the inside
    of a placeholder. -/
inductive Tail where
  | done
  | more (rest : List Char)
  | field (rest : List Char)

/-- The text of a segment. It ends behind the first doubled brace, in front of a placeholder, or at
    the end of the template. -/
def readText : List Char → Except TemplateFault (List Char × Tail)
  | [] => .ok ([], .done)
  | '\x7b' :: [] => .error .loneOpen
  | '\x7b' :: '\x7b' :: rest => .ok (['\x7b'], .more rest)
  | '\x7b' :: rest => .ok ([], .field rest)
  | '\x7d' :: '\x7d' :: rest => .ok (['\x7d'], .more rest)
  | '\x7d' :: _ => .error .loneClose
  | c :: rest => do
    let (text, tail) ← readText rest
    return (c :: text, tail)

/-- The mark that ends the name of a placeholder. -/
inductive NameEnd where
  | close
  | spec
  | conversion

/-- The name of a placeholder, the mark that ends it, and what follows. Between brackets every
    character belongs to the name. -/
def readName (bracketed : Bool) : List Char → Except TemplateFault (List Char × NameEnd × List Char)
  | [] => .error .expectedClose
  | c :: rest =>
    if bracketed then do
      let (name, ending, after) ← readName (c != ']') rest
      return (c :: name, ending, after)
    else if c = '\x7b' then .error .openInName
    else if c = '\x7d' then .ok ([], .close, rest)
    else if c = ':' then .ok ([], .spec, rest)
    else if c = '!' then .ok ([], .conversion, rest)
    else do
      let (name, ending, after) ← readName (c == '[') rest
      return (c :: name, ending, after)

/-- The inside of a format up to the brace that closes the placeholder, where `depth` more braces
    are open. -/
def readSpec (depth : Nat) : List Char → Except TemplateFault (List Char × List Char)
  | [] => .error .unmatchedInSpec
  | c :: rest =>
    if c = '\x7d' ∧ depth = 0 then .ok ([], rest)
    else do
      let inner := if c = '\x7b' then depth + 1 else if c = '\x7d' then depth - 1 else depth
      let (spec, after) ← readSpec inner rest
      return (c :: spec, after)

/-- What a placeholder says: its name, and whether it asks for a format or a conversion. -/
structure Field where
  name : List Char
  formatted : Bool

/-- The rest of a placeholder behind a conversion mark. The conversion to nothing, U+0000, counts
    as none. -/
def readConversion (name : List Char) : List Char → Except TemplateFault (Field × List Char)
  | [] => .error .endInConversion
  | [_] => .error .unmatchedInSpec
  | mark :: '\x7d' :: rest => .ok (⟨name, mark != '\x00'⟩, rest)
  | mark :: ':' :: rest => do
    let (spec, after) ← readSpec 0 rest
    return (⟨name, mark != '\x00' || !spec.isEmpty⟩, after)
  | _ => .error .noColonAfterConversion

/-- A placeholder, read behind its opening brace. -/
def readField (cs : List Char) : Except TemplateFault (Field × List Char) := do
  let (name, ending, rest) ← readName false cs
  match ending with
  | .close => return (⟨name, false⟩, rest)
  | .spec =>
    let (spec, after) ← readSpec 0 rest
    return (⟨name, !spec.isEmpty⟩, after)
  | .conversion => readConversion name rest

/-- The segments of a template, with what their placeholders say. The first number bounds the
    count of segments. -/
def readSegments : Nat → List Char → Except TemplateFault (List (List Char × Option Field))
  | 0, _ => .ok []
  | _ + 1, [] => .ok []
  | fuel + 1, cs => do
    let (text, tail) ← readText cs
    match tail with
    | .done => return [(text, none)]
    | .more rest =>
      let others ← readSegments fuel rest
      return (text, none) :: others
    | .field inside =>
      let (field, rest) ← readField inside
      let others ← readSegments fuel rest
      return (text, some field) :: others

/-- The placeholder with what it says, if it is a plain name. -/
def placeholderOf (field : Field) : Except TemplateFault String :=
  if !Text.isIdentifier field.name then .error (.badPlaceholder (String.ofList field.name))
  else if field.formatted then .error (.hasSpec (String.ofList field.name))
  else .ok (String.ofList field.name)

/-- One segment, if its placeholder is a plain name. -/
def segmentOf (raw : List Char × Option Field) : Except TemplateFault Segment :=
  match raw.2 with
  | none => .ok ⟨String.ofList raw.1, none⟩
  | some field => (placeholderOf field).map fun name => ⟨String.ofList raw.1, some name⟩

/-- The segments of a source. -/
def segmentsOf (source : String) : Except TemplateFault (List Segment) := do
  let raw ← readSegments source.toList.length source.toList
  raw.mapM segmentOf

/-- Reads a template. -/
def read (source name : String) : Except GraphError Template :=
  match segmentsOf source with
  | .ok segments => .ok ⟨name, segments⟩
  | .error fault => .error (.template name [] (some fault))

/-! ### Rendering -/

/-- The placeholders of a template, each once, in order of their first occurrence. -/
def placeholders (t : Template) : List String :=
  Text.distinct (t.segments.filterMap (·.placeholder))

/-- The text of a segment with a value in place of its placeholder. -/
def renderSegment (values : Entries) (segment : Segment) : Except NoText String :=
  match segment.placeholder.bind values.get? with
  | some value => do return segment.text ++ (← value.display)
  | none => .ok segment.text

/-- Puts values in place of the placeholders. Without a value for each the template is refused. -/
def render (t : Template) (values : Entries) : Except Failure String :=
  let missing := t.placeholders.filter fun name => (values.get? name).isNone
  if missing.isEmpty then
    orNoText (String.join <$> t.segments.mapM (renderSegment values))
  else refuse (.template t.name missing none)

/-- A template as text: its name and its placeholders. -/
def summary (t : Template) : String :=
  "CompiledTemplate(" ++ Text.quoted t.name ++ ", placeholders=["
    ++ ", ".intercalate (t.placeholders.map Text.quoted) ++ "])"

end Template

end LayerGraph
