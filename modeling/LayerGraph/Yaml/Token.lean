import LayerGraph.Yaml.Cursor

/-! # Tokens

    The units of a YAML text. Indentation has become tokens of its own: a block collection has a
    token for its start and one for its end.
-/

namespace LayerGraph.Yaml

/-- A line that tells how the document after it is to be read. -/
inductive Directive where
  | version (major : Nat)
  /-- A handle stands for the beginning of tags. -/
  | handle (handle start : String)
  | other
deriving DecidableEq, Repr

/-- A unit of a text. -/
inductive Token where
  | directive (content : Directive)
  | documentStart
  | documentEnd
  | blockSequenceStart
  | blockMappingStart
  | blockEnd
  | flowSequenceStart
  | flowSequenceEnd
  | flowMappingStart
  | flowMappingEnd
  /-- The dash before an item. -/
  | item
  /-- The comma between items. -/
  | comma
  /-- What comes next is a key. -/
  | key
  /-- What comes next is the value of a key. -/
  | value
  | alias (name : String)
  | anchor (name : String)
  /-- A tag: the rest of its name behind a handle, or its whole name. -/
  | tag (handle : Option String) (name : String)
  /-- A scalar; a plain one stands without quotes, and its text decides its type. -/
  | scalar (text : String) (plain : Bool)
  | streamEnd
  /-- The text cannot be read beyond this point. -/
  | unreadable (error : Error)
deriving DecidableEq, Repr

end LayerGraph.Yaml
