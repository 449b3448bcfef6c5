import LayerGraph.Flow.Lexer
import LayerGraph.Text.Blank
import LayerGraph.Text.Digit
import LayerGraph.Text.Lines

/-! # Binding layer names in a data flow

    A data flow names layers as if they were variables. Each such name becomes an attribute of the
    module: `self.` is put in front of it, and nothing else changes. Names behind a point, names of
    keyword arguments, strings and comments are left alone. A data flow that gives a layer's name
    another value, or that speaks of a numbered layer that does not exist, is refused.
-/

namespace LayerGraph.Flow

/-! ### Neighbours -/

/-- The tokens from the next one on that carries code. -/
def codeAhead (ts : List Token) : List Token := ts.dropWhile (!·.carriesCode)

/-- A token between the nearest tokens around it that carry code. -/
structure Place where
  token : Token
  before? : Option Token
  /-- The tokens behind it, from the first one on that carries code. -/
  after : List Token

namespace Place

/-- Whether the token stands behind a point. -/
def isMember (p : Place) : Bool := (p.before?.map (·.is ".")).getD false

/-- Whether the next token that carries code has one of these texts. -/
def isFollowedBy (p : Place) (texts : List String) : Bool :=
  (p.after.head?.map fun next => texts.contains next.string).getD false

end Place

/-- The tokens with their neighbours, behind a token that carries code. -/
def places (before? : Option Token) : List Token → List Place
  | [] => []
  | t :: rest =>
    ⟨t, before?, codeAhead rest⟩ :: places (if t.carriesCode then some t else before?) rest

/-! ### Targets -/

/-- The name of a layer that gets another value among the targets of an assignment, with the line
    it stands on. Names inside brackets, members, and layers whose member, item or result is meant
    are not targets. -/
def rebound? (attributes : List String) (depth : Nat) : List Place → Option (String × Nat)
  | [] => none
  | p :: rest =>
    let t := p.token
    if t.isOperator openers then rebound? attributes (depth + 1) rest
    else if t.isOperator closers then rebound? attributes (depth - 1) rest
    else if t.kind = .name && attributes.contains t.string && depth == 0
        && !p.isMember && !p.isFollowedBy [".", "[", "("] then
      some (t.string, t.line)
    else rebound? attributes depth rest

/-- Refuses an assignment to these targets if one of them is a layer. -/
def checkTargets (attributes : List String) (targets : List Place) : Except Reason Unit :=
  match rebound? attributes 0 targets with
  | some (name, line) => .error (.assignsLayer name line)
  | none => .ok ()

/-! ### References -/

/-- Whether a text is the standard name of a numbered layer. -/
def isLayerName (text : List Char) : Bool :=
  "layer_".toList.isPrefixOf text &&
    (let digits := text.drop 6
     !digits.isEmpty && digits.all fun c => (Text.digitValue? c).isSome)

/-- Refuses `self.` in front of the name of a numbered layer that does not exist. -/
def checkReference (attributes : List String) (p : Place) : Except Reason Unit :=
  match p.after with
  | [] => .ok ()
  | point :: rest =>
    match codeAhead rest with
    | [] => .ok ()
    | name :: _ =>
      if point.is "." && isLayerName name.text && !attributes.contains name.string then
        .error (.undefinedLayer name.string name.line)
      else .ok ()

/-- What the walk over the tokens keeps: how many brackets are open, counted from zero, and the
    places of the statement so far, last first. -/
structure Walk where
  depth : Nat
  statement : List Place

namespace Walk

/-- The walk before the first token. -/
def start : Walk := ⟨0, []⟩

/-- The walk after one more place. -/
def push (w : Walk) (p : Place) : Walk := { w with statement := p :: w.statement }

end Walk

/-- An operator: brackets are counted, a semicolon ends a statement, and the targets of assignments
    are checked. -/
def stepOperator (attributes : List String) (w : Walk) (p : Place) : Except Reason Walk :=
  let next := w.push p
  if p.token.isOperator openers then .ok { next with depth := w.depth + 1 }
  else if p.token.isOperator closers then .ok { next with depth := w.depth - 1 }
  else if p.token.is ";" && w.depth == 0 then .ok { w with statement := [] }
  else if p.token.is ":=" then do
    checkTargets attributes (w.statement.take 1)
    return next
  else if p.token.isOperator assignments && w.depth == 0 then do
    checkTargets attributes w.statement.reverse
    return next
  else .ok next

/-- Whether a name refers to a layer as a variable. -/
def refersToLayer (attributes : List String) (w : Walk) (p : Place) : Bool :=
  attributes.contains p.token.string && !p.isMember && !p.token.is "self"
    && !(decide (0 < w.depth) && p.isFollowedBy ["="])

/-- The names in a data flow that refer to layers, as they are found by a walk. -/
def references (attributes : List String) (w : Walk) : List Place → Except Reason (List Token)
  | [] => .ok []
  | p :: rest =>
    match p.token.kind with
    | .newline => references attributes { w with statement := [] } rest
    | .operator => do
      let next ← stepOperator attributes w p
      references attributes next rest
    | .name => do
      if p.token.is "self" && !p.isMember then checkReference attributes p
      let others ← references attributes (w.push p) rest
      return if refersToLayer attributes w p then p.token :: others else others
    | _ => references attributes (w.push p) rest

/-! ### Rewriting -/

/-- A line with `self.` in front of the given columns. -/
def qualifyLine (columns : List Nat) (line : List Char) : List Char :=
  line.zipIdx.flatMap fun (c, column) =>
    if columns.contains column then "self.".toList ++ [c] else [c]

/-- The lines with `self.` in front of the given names. -/
def qualify (names : List Token) (lines : List (List Char)) : List (List Char) :=
  lines.zipIdx.map fun (line, index) =>
    qualifyLine ((names.filter (·.line == index + 1)).map (·.column)) line

/-- The lines of a data flow: no line breaks at its ends and no blanks at the end of a line. -/
def normalLines (dataFlow : String) : List (List Char) :=
  (Text.lines (Text.trimBreaks dataFlow.toList)).map Text.trimEnd

/-- Binds the names of layers in a data flow to the attributes of the module. -/
def bind (attributes : List String) (dataFlow : String) : Except Reason String := do
  let lines := normalLines dataFlow
  let tokens ← (tokens lines).mapError .unreadable
  let names ← references attributes .start (places none tokens)
  return String.ofList (Text.unlines (qualify names lines))

end LayerGraph.Flow
