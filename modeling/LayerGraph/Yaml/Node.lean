import LayerGraph.Yaml.Pattern
import LayerGraph.Yaml.Scan

/-! # Nodes

    A document as a tree of scalars, sequences and mappings, each with its tag. An anchor names a
    node for the rest of the document, and an alias stands for the node it names; so an alias is
    read as that node. A node without a tag of its own has the usual one of its kind, and a plain
    scalar the one that its text suggests.
-/

namespace LayerGraph.Yaml

/-- A part of a document. -/
inductive Node where
  | scalar (tag : Tag) (text : String)
  | sequence (tag : Tag) (items : List Node)
  | mapping (tag : Tag) (entries : List (Node × Node))

namespace Node

/-- What is not written down: a plain scalar without text. -/
def empty : Node := .scalar .null ""

/-- What the reading of a document has come to know. -/
structure Known where
  handles : List (String × String)
  /-- The nodes under their anchors. A node that is still being read is nothing yet. -/
  anchors : List (String × Option Node)

/-- What stands before a node. -/
structure Properties where
  anchor : Option String
  tag : Option (Option String × String)

/-- What was read, what is known after it, and the tokens after it. -/
abbrev Reading (α : Type) := α × Known × List Token

/-- The error of a token that may not stand where it does. -/
def unexpected {α : Type} : List Token → Except Error α
  | .unreadable error :: _ => .error error
  | _ => .error .malformed

/-! ### Properties -/

/-- An anchor and a tag, in any order. -/
def properties : List Token → Properties × List Token
  | .anchor name :: .tag handle text :: rest => (⟨some name, some (handle, text)⟩, rest)
  | .anchor name :: rest => (⟨some name, none⟩, rest)
  | .tag handle text :: .anchor name :: rest => (⟨some name, some (handle, text)⟩, rest)
  | .tag handle text :: rest => (⟨none, some (handle, text)⟩, rest)
  | rest => (⟨none, none⟩, rest)

/-- The full name of a tag. Its handle must be known. -/
def tagName (known : Known) : Option (Option String × String) → Except Error (Option String)
  | none => .ok none
  | some (none, text) => .ok (some text)
  | some (some handle, text) =>
    match known.handles.lookup handle with
    | some start => .ok (some (start ++ text))
    | none => .error .malformed

/-- The tag of a collection: the one it has, unless that is the mark alone. -/
def collectionTag (name : Option String) (usual : Tag) : Tag :=
  match name with
  | none => usual
  | some "!" => usual
  | some name => .ofName name

/-- The tag of a scalar. The text decides if the scalar is plain or has the mark alone. -/
def scalarTag (name : Option String) (plain : Bool) (text : String) : Tag :=
  match name with
  | none => if plain then suggestedTag text.toList else .str
  | some "!" => suggestedTag text.toList
  | some name => .ofName name

/-- Gives an anchor to a node that is about to be read. No anchor is given twice. -/
def beginAnchor (known : Known) (anchor : Option String) : Except Error Known :=
  match anchor with
  | none => .ok known
  | some name =>
    if (known.anchors.lookup name).isSome then .error .malformed
    else .ok { known with anchors := (name, none) :: known.anchors }

/-- Puts a node that has been read under its anchor. -/
def endAnchor (known : Known) (anchor : Option String) (node : Node) : Known :=
  match anchor with
  | none => known
  | some name => { known with anchors := (name, some node) :: known.anchors }

/-- The node that an alias stands for. A node cannot hold itself. -/
def aliased (known : Known) (name : String) : Except Error Node :=
  match known.anchors.lookup name with
  | some (some node) => .ok node
  | _ => .error .malformed

/-! ### Reading

    The first number of each reader bounds the steps. -/

/-- Where a node stands: in brackets, in a block, or after a key, where the dashes of a sequence
    need no indentation. -/
inductive Position where
  | flow
  | block
  | afterKey
deriving DecidableEq

/-- Whether no node follows the mark of an item, a key or a value, since one of these comes
    next. -/
def isAbsent (ends : List Token) : List Token → Bool
  | [] => true
  | token :: _ => ends.contains token

mutual

/-- A node. -/
def read (position : Position) : Nat → Known → List Token → Except Error (Reading Node)
  | 0, _, _ => .error .malformed
  | _ + 1, known, .alias name :: rest => do return (← aliased known name, known, rest)
  | fuel + 1, known, ts => do
    let (before, rest) := properties ts
    let name ← tagName known before.tag
    let opened ← beginAnchor known before.anchor
    let mayBeEmpty := before.anchor.isSome || name.isSome
    let (node, after, behind) ← content position fuel name mayBeEmpty opened rest
    return (node, endAnchor after before.anchor node, behind)

/-- What stands behind the properties of a node. A node with properties may be empty. -/
def content (position : Position) :
    Nat → Option String → Bool → Known → List Token → Except Error (Reading Node)
  | 0, _, _, _, _ => .error .malformed
  | fuel + 1, name, mayBeEmpty, known, ts =>
    let sequence (items : Except Error (Reading (List Node))) : Except Error (Reading Node) :=
      items.map fun (items, rest) => (.sequence (collectionTag name .sequence) items, rest)
    let mapping (entries : Except Error (Reading (List (Node × Node)))) :
        Except Error (Reading Node) :=
      entries.map fun (entries, rest) => (.mapping (collectionTag name .mapping) entries, rest)
    match ts with
    | .scalar text plain :: rest => .ok (.scalar (scalarTag name plain text) text, known, rest)
    | .flowSequenceStart :: rest => sequence (flowItems true fuel known rest)
    | .flowMappingStart :: rest => mapping (flowEntries true fuel known rest)
    | .blockSequenceStart :: rest =>
      if position = .flow then emptyOr name mayBeEmpty known ts
      else sequence (blockItems fuel known rest)
    | .blockMappingStart :: rest =>
      if position = .flow then emptyOr name mayBeEmpty known ts
      else mapping (blockEntries fuel known rest)
    | .item :: _ =>
      if position = .afterKey then sequence (looseItems fuel known ts)
      else emptyOr name mayBeEmpty known ts
    | _ => emptyOr name mayBeEmpty known ts

/-- An empty scalar, where there may be one. -/
def emptyOr (name : Option String) (mayBeEmpty : Bool) (known : Known) (ts : List Token) :
    Except Error (Reading Node) :=
  if mayBeEmpty then .ok (.scalar (scalarTag name name.isNone "") "", known, ts) else unexpected ts

/-- The items of a block sequence, and its end. -/
def blockItems : Nat → Known → List Token → Except Error (Reading (List Node))
  | 0, _, _ => .error .malformed
  | fuel + 1, known, .item :: rest => do
    let (first, known, rest) ← orEmpty .block [.item, .blockEnd] fuel known rest
    let (others, known, rest) ← blockItems fuel known rest
    return (first :: others, known, rest)
  | _ + 1, known, .blockEnd :: rest => .ok ([], known, rest)
  | _ + 1, _, ts => unexpected ts

/-- The items of a sequence whose dashes are not indented. -/
def looseItems : Nat → Known → List Token → Except Error (Reading (List Node))
  | 0, _, _ => .error .malformed
  | fuel + 1, known, .item :: rest => do
    let (first, known, rest) ← orEmpty .block [.item, .key, .value, .blockEnd] fuel known rest
    let (others, known, rest) ← looseItems fuel known rest
    return (first :: others, known, rest)
  | _ + 1, known, ts => .ok ([], known, ts)

/-- The entries of a block mapping, and its end. A value without a key is no entry. -/
def blockEntries : Nat → Known → List Token → Except Error (Reading (List (Node × Node)))
  | 0, _, _ => .error .malformed
  | fuel + 1, known, .key :: rest => do
    let (key, known, rest) ← orEmpty .afterKey [.key, .value, .blockEnd] fuel known rest
    let (value, known, rest) ← valueAfter .afterKey [.key, .value, .blockEnd] fuel known rest
    let (others, known, rest) ← blockEntries fuel known rest
    return ((key, value) :: others, known, rest)
  | _ + 1, known, .blockEnd :: rest => .ok ([], known, rest)
  | _ + 1, _, ts => unexpected ts

/-- The value of a key, if the mark of a value comes next. -/
def valueAfter (position : Position) (ends : List Token) :
    Nat → Known → List Token → Except Error (Reading Node)
  | 0, _, _ => .error .malformed
  | fuel + 1, known, .value :: rest => orEmpty position ends fuel known rest
  | _ + 1, known, ts => .ok (empty, known, ts)

/-- A node, or an empty one if one of these tokens comes next. -/
def orEmpty (position : Position) (ends : List Token) :
    Nat → Known → List Token → Except Error (Reading Node)
  | 0, _, _ => .error .malformed
  | fuel + 1, known, ts =>
    if isAbsent ends ts then .ok (empty, known, ts) else read position fuel known ts

/-- The items of a sequence in brackets, and its end. An entry of a mapping among them is a mapping
    of its own. -/
def flowItems (isFirst : Bool) : Nat → Known → List Token → Except Error (Reading (List Node))
  | 0, _, _ => .error .malformed
  | _ + 1, known, .flowSequenceEnd :: rest => .ok ([], known, rest)
  | fuel + 1, known, ts => do
    let ts ← if isFirst then pure ts else afterComma ts
    match ts with
    | .flowSequenceEnd :: rest => return ([], known, rest)
    | .key :: rest =>
      let ends := [.value, .comma, .flowSequenceEnd]
      let (key, known, rest) ← orEmpty .flow ends fuel known rest
      let (value, known, rest) ← valueAfter .flow [.comma, .flowSequenceEnd] fuel known rest
      let (others, known, rest) ← flowItems false fuel known rest
      return (.mapping .mapping [(key, value)] :: others, known, rest)
    | ts =>
      let (first, known, rest) ← read .flow fuel known ts
      let (others, known, rest) ← flowItems false fuel known rest
      return (first :: others, known, rest)

/-- The entries of a mapping in braces, and its end. -/
def flowEntries (isFirst : Bool) :
    Nat → Known → List Token → Except Error (Reading (List (Node × Node)))
  | 0, _, _ => .error .malformed
  | _ + 1, known, .flowMappingEnd :: rest => .ok ([], known, rest)
  | fuel + 1, known, ts => do
    let ts ← if isFirst then pure ts else afterComma ts
    match ts with
    | .flowMappingEnd :: rest => return ([], known, rest)
    | .key :: rest =>
      let ends := [.value, .comma, .flowMappingEnd]
      let (key, known, rest) ← orEmpty .flow ends fuel known rest
      let (value, known, rest) ← valueAfter .flow [.comma, .flowMappingEnd] fuel known rest
      let (others, known, rest) ← flowEntries false fuel known rest
      return ((key, value) :: others, known, rest)
    | ts =>
      let (key, known, rest) ← read .flow fuel known ts
      let (others, known, rest) ← flowEntries false fuel known rest
      return ((key, empty) :: others, known, rest)

/-- The tokens behind a comma, which has to come next. -/
def afterComma : List Token → Except Error (List Token)
  | .comma :: rest => .ok rest
  | ts => unexpected ts

end

/-! ### Documents -/

/-- The handles that the directives of a document define, in addition to those known to all. A
    document has at most one version, and defines no handle twice. -/
def handlesOf :
    Bool → List (String × String) → List Directive → Except Error (List (String × String))
  | _, found, [] => .ok (found ++ Tag.handles)
  | versioned, found, .version major :: rest =>
    if versioned || major != 1 then .error .malformed else handlesOf true found rest
  | versioned, found, .handle handle start :: rest =>
    if (found.lookup handle).isSome then .error .malformed
    else handlesOf versioned ((handle, start) :: found) rest
  | versioned, found, .other :: rest => handlesOf versioned found rest

/-- The directives that come next. -/
def takeDirectives : List Token → List Directive × List Token
  | .directive content :: rest =>
    let (others, after) := takeDirectives rest
    (content :: others, after)
  | ts => ([], ts)

/-- The tokens from the next one that ends no document. -/
def skipEnds (ts : List Token) : List Token := ts.dropWhile (· == .documentEnd)

/-- Whether a document is empty, since one of these comes next. -/
def isEmptyDocument : List Token → Bool
  | .directive _ :: _ => true
  | .documentStart :: _ => true
  | .documentEnd :: _ => true
  | .streamEnd :: _ => true
  | _ => false

/-- Passes on the only document, unless more than ends follow it. -/
def onlyDocument (node : Node) (ts : List Token) : Except Error (Option Node) :=
  match skipEnds ts with
  | .streamEnd :: _ => .ok (some node)
  | rest => unexpected rest

/-- A document that begins with directives and a mark. -/
def explicitDocument (ts : List Token) : Except Error (Option Node) := do
  match skipEnds ts with
  | .streamEnd :: _ => return none
  | rest =>
    let (directives, afterDirectives) := takeDirectives rest
    let handles ← handlesOf false [] directives
    match afterDirectives with
    | .documentStart :: body =>
      if isEmptyDocument body then onlyDocument empty body
      else
        let (node, _, behind) ← read .block (4 * body.length + 4) ⟨handles, []⟩ body
        onlyDocument node behind
    | other => unexpected other

/-- The only document of a text; an empty text has none. -/
def ofTokens (ts : List Token) : Except Error (Option Node) := do
  match ts with
  | .directive _ :: _ => explicitDocument ts
  | .documentStart :: _ => explicitDocument ts
  | .streamEnd :: _ => explicitDocument ts
  | _ =>
    let (node, _, behind) ← read .block (4 * ts.length + 4) ⟨Tag.handles, []⟩ ts
    onlyDocument node behind

end Node

end LayerGraph.Yaml
