import LayerGraph.Yaml.Scalar

/-! # Scanning

    A text as tokens. Outside brackets the indentation says where collections begin and end: a dash
    or a key that stands further right than all open collections opens a new one, and a token that
    stands further left closes those it is left of.

    A key may be written without a mark. Whether a token begins a key shows only at the colon
    behind it; so the scan remembers, for every level of brackets, where a key may have begun, and
    when the colon comes it puts the mark of the key there. Such a key is on one line, and no longer
    than 1024 characters.
-/

namespace LayerGraph.Yaml

/-- Where a key without a mark may have begun. -/
structure PossibleKey where
  /-- The number of tokens before it. -/
  position : Nat
  index : Nat
  line : Nat
  column : Nat
  /-- Whether nothing but a key can stand there. -/
  required : Bool
deriving DecidableEq, Repr

/-- A scan on its way through a text. -/
structure Scan where
  place : Cursor
  /-- The tokens so far, the last one first. -/
  tokens : List Token
  /-- The number of open brackets. -/
  depth : Nat
  /-- The columns of the open block collections, the innermost first. -/
  indents : List Nat
  /-- Whether a key without a mark may begin at the next token. -/
  keyAllowed : Bool
  /-- Where keys may have begun, under the numbers of open brackets. -/
  keys : List (Nat × PossibleKey)

namespace Scan

/-- The start of a scan. -/
def start (text : List Char) : Scan := ⟨.start text, [], 0, [], true, []⟩

/-- Adds a token. -/
def emit (scan : Scan) (token : Token) : Scan := { scan with tokens := token :: scan.tokens }

/-- Puts a token behind the first `position` ones. -/
def insert (scan : Scan) (position : Nat) (token : Token) : Scan :=
  let behind := scan.tokens.length - position
  { scan with tokens := scan.tokens.take behind ++ token :: scan.tokens.drop behind }

/-- Whether the place is inside brackets. -/
def inFlow (scan : Scan) : Bool := scan.depth != 0

/-- The least column at which a line inside the innermost collection may begin. -/
def insideColumn (scan : Scan) : Nat := (scan.indents.head?.map (· + 1)).getD 0

/-! ### Keys without a mark -/

/-- Whether a key that may have begun there can no longer be one. -/
def isStale (place : Cursor) (key : PossibleKey) : Bool :=
  key.line != place.line || decide (1024 < place.index - key.index)

/-- Forgets the places at which keys can no longer have begun. -/
def dropStale (scan : Scan) : Except Error Scan :=
  if scan.keys.any fun entry => isStale scan.place entry.2 && entry.2.required then
    .error .malformed
  else .ok { scan with keys := scan.keys.filter fun entry => !isStale scan.place entry.2 }

/-- Forgets the place at which a key may have begun on this level of brackets. -/
def dropKey (scan : Scan) : Except Error Scan :=
  match scan.keys.lookup scan.depth with
  | some key =>
    if key.required then .error .malformed
    else .ok { scan with keys := scan.keys.filter (·.1 != scan.depth) }
  | none => .ok scan

/-- Remembers that a key may begin here. -/
def saveKey (scan : Scan) : Except Error Scan :=
  if scan.keyAllowed then do
    let scan ← scan.dropKey
    let required := !scan.inFlow && scan.indents.head? == some scan.place.column
    let key : PossibleKey :=
      ⟨scan.tokens.length, scan.place.index, scan.place.line, scan.place.column, required⟩
    return { scan with keys := (scan.depth, key) :: scan.keys }
  else .ok scan

/-! ### Indentation -/

/-- Closes the collections that stand further right than a column. -/
def closeBeyond (column : Nat) : List Nat → List Nat × Nat
  | [] => ([], 0)
  | indent :: outer =>
    if column < indent then
      let (kept, closed) := closeBeyond column outer
      (kept, closed + 1)
    else (indent :: outer, 0)

/-- Adds the ends of that many block collections. -/
def emitEnds (scan : Scan) (count : Nat) : Scan :=
  { scan with tokens := List.replicate count .blockEnd ++ scan.tokens }

/-- Closes the collections that the place is left of. Brackets suspend indentation. -/
def unwind (scan : Scan) : Scan :=
  if scan.inFlow then scan
  else
    let (kept, closed) := closeBeyond scan.place.column scan.indents
    { scan with indents := kept }.emitEnds closed

/-- Closes all collections. -/
def unwindAll (scan : Scan) : Scan :=
  if scan.inFlow then scan else { scan with indents := [] }.emitEnds scan.indents.length

/-- Whether a column lies further right than all open collections. -/
def opensAt (scan : Scan) (column : Nat) : Bool :=
  match scan.indents with
  | [] => true
  | indent :: _ => decide (indent < column)

/-- Opens a block collection here, if the place is further right than the open ones. -/
def openHere (scan : Scan) (token : Token) : Scan :=
  if scan.opensAt scan.place.column then
    { scan with indents := scan.place.column :: scan.indents }.emit token
  else scan

/-! ### Gaps -/

/-- The place of the next token, and whether a line ended before it. The number bounds the steps. -/
def skipGap : Nat → Cursor → Cursor × Bool
  | 0, place => (place, false)
  | fuel + 1, place =>
    let behind := (place.skipWhile (· == ' ')).skipComment
    match behind.lineBreak? with
    | some (_, next) => ((skipGap fuel next).1, true)
    | none => (behind, false)

/-- Moves to the next token. A new line allows a key outside brackets. -/
def toNextToken (scan : Scan) : Scan :=
  let first :=
    if scan.place.index = 0 ∧ scan.place.rest.head? = some '\uFEFF' then scan.place.next
    else scan.place
  let (place, brokeLine) := skipGap (first.rest.length + 1) first
  { scan with place := place, keyAllowed := scan.keyAllowed || (brokeLine && !scan.inFlow) }

/-! ### Tokens

    Each step reads one kind of token. -/

/-- Moves behind that many characters. -/
def advance (scan : Scan) (count : Nat) : Scan :=
  { scan with place := scan.place.forward count }

/-- Moves to where `rest` begins. -/
def advanceTo (scan : Scan) (rest : List Char) : Scan :=
  { scan with place := scan.place.moveTo rest }

/-- Says whether a key may begin at the next token. -/
def allowKey (scan : Scan) (allowed : Bool) : Scan := { scan with keyAllowed := allowed }

/-- The end of the text. -/
def finish (scan : Scan) : Except Error Scan := do
  let scan ← scan.unwindAll.dropKey
  return scan.emit .streamEnd

/-- A directive. -/
def directive (scan : Scan) (cs : List Char) : Except Error Scan := do
  let scan ← scan.unwindAll.dropKey
  let (content, rest) ← readDirective cs
  let place ← (scan.place.moveTo rest).skipLineEnd
  return ({ scan with place := place }.allowKey false).emit (.directive content)

/-- A mark that begins or ends a document. -/
def documentMark (scan : Scan) (token : Token) : Except Error Scan := do
  let scan ← scan.unwindAll.dropKey
  return ((scan.allowKey false).advance 3).emit token

/-- An opening bracket. -/
def openBracket (scan : Scan) (token : Token) : Except Error Scan := do
  let scan ← scan.saveKey
  return ({ scan with depth := scan.depth + 1 }.allowKey true |>.advance 1).emit token

/-- A closing bracket. -/
def closeBracket (scan : Scan) (token : Token) : Except Error Scan := do
  let scan ← scan.dropKey
  return ({ scan with depth := scan.depth - 1 }.allowKey false |>.advance 1).emit token

/-- A comma. -/
def comma (scan : Scan) : Except Error Scan := do
  let scan ← scan.dropKey
  return ((scan.allowKey true).advance 1).emit .comma

/-- A mark that opens a block collection where it is further right than the open ones, and that
    may stand only where a key may. -/
def blockMark (scan : Scan) (start : Token) : Except Error Scan :=
  if scan.inFlow then .ok scan
  else if scan.keyAllowed then .ok (scan.openHere start)
  else .error .malformed

/-- The dash before an item. -/
def item (scan : Scan) : Except Error Scan := do
  let scan ← scan.blockMark .blockSequenceStart
  let scan ← scan.dropKey
  return ((scan.allowKey true).advance 1).emit .item

/-- The mark before a key. -/
def keyMark (scan : Scan) : Except Error Scan := do
  let scan ← scan.blockMark .blockMappingStart
  let scan ← scan.dropKey
  return ((scan.allowKey !scan.inFlow).advance 1).emit .key

/-- The colon of a key without a mark: the key gets its mark, and perhaps opens a mapping. -/
def valueOf (scan : Scan) (key : PossibleKey) : Scan :=
  let marked := { scan with keys := scan.keys.filter (·.1 != scan.depth) }.insert key.position .key
  let opened :=
    if !scan.inFlow && scan.opensAt key.column then
      { marked with indents := key.column :: marked.indents }.insert key.position .blockMappingStart
    else marked
  ((opened.allowKey false).advance 1).emit .value

/-- The colon before a value. -/
def valueMark (scan : Scan) : Except Error Scan :=
  match scan.keys.lookup scan.depth with
  | some key => .ok (scan.valueOf key)
  | none => do
    let scan ← scan.blockMark .blockMappingStart
    return ((scan.allowKey !scan.inFlow).advance 1).emit .value

/-- An alias or an anchor, behind its mark. -/
def named (scan : Scan) (token : String → Token) (cs : List Char) : Except Error Scan := do
  let scan ← scan.saveKey
  let (name, rest) ← readAnchorName cs
  return ((scan.allowKey false).advanceTo rest).emit (token name)

/-- A tag, behind its mark. -/
def tag (scan : Scan) (cs : List Char) : Except Error Scan := do
  let scan ← scan.saveKey
  let (token, rest) ← readTag cs
  return ((scan.allowKey false).advanceTo rest).emit token

/-- A block scalar. -/
def block (scan : Scan) (folded : Bool) : Except Error Scan := do
  let scan ← scan.dropKey
  let (text, place) ← readBlock folded (max 1 scan.insideColumn) scan.place.next
  return ({ scan with place := place }.allowKey true).emit (.scalar (String.ofList text) false)

/-- A scalar in quotes, behind its opening quote. -/
def quoted (scan : Scan) (double : Bool) (cs : List Char) : Except Error Scan := do
  let scan ← scan.saveKey
  let (text, rest) ← readQuoted double (cs.length + 1) cs
  return ((scan.allowKey false).advanceTo rest).emit (.scalar (String.ofList text) false)

/-- A plain scalar. -/
def plain (scan : Scan) : Except Error Scan := do
  let scan ← scan.saveKey
  let steps := scan.place.rest.length + 1
  let read := readPlain scan.inFlow scan.insideColumn steps [] scan.place false
  return ({ scan with place := read.place }.allowKey read.brokeLine).emit
    (.scalar (String.ofList read.text) true)

/-- Whether a plain scalar may begin here. -/
def atPlain (scan : Scan) (c : Char) (cs : List Char) : Bool :=
  !(isGap c || "-?:,[]\x7b\x7d#&*!|>'\"%@`".toList.contains c) ||
    (!atGap cs && (c == '-' || (!scan.inFlow && (c == '?' || c == ':'))))

/-- The next token; the text must not be at its end. -/
def token (scan : Scan) (c : Char) (cs : List Char) : Except Error Scan :=
  if c = '%' ∧ scan.place.column = 0 then scan.directive cs
  else if scan.place.column = 0 ∧ atDocumentMark (c :: cs) then
    scan.documentMark (if c = '-' then .documentStart else .documentEnd)
  else if c = '[' then scan.openBracket .flowSequenceStart
  else if c = '\x7b' then scan.openBracket .flowMappingStart
  else if c = ']' then scan.closeBracket .flowSequenceEnd
  else if c = '\x7d' then scan.closeBracket .flowMappingEnd
  else if c = ',' then scan.comma
  else if c = '-' ∧ atGap cs then scan.item
  else if c = '?' ∧ (scan.inFlow ∨ atGap cs) then scan.keyMark
  else if c = ':' ∧ (scan.inFlow ∨ atGap cs) then scan.valueMark
  else if c = '*' then scan.named .alias cs
  else if c = '&' then scan.named .anchor cs
  else if c = '!' then scan.tag cs
  else if c = '|' ∧ !scan.inFlow then scan.block false
  else if c = '>' ∧ !scan.inFlow then scan.block true
  else if c = '\'' then scan.quoted false cs
  else if c = '"' then scan.quoted true cs
  else if scan.atPlain c cs then scan.plain
  else .error .malformed

/-- The tokens up to the end of the text, or to where it cannot be read. The number bounds the
    steps. -/
def run : Nat → Scan → List Token
  | 0, scan => (scan.emit (.unreadable .malformed)).tokens.reverse
  | fuel + 1, scan =>
    match scan.toNextToken.dropStale with
    | .error error => (scan.emit (.unreadable error)).tokens.reverse
    | .ok fresh =>
      let ready := fresh.unwind
      match ready.place.rest with
      | [] =>
        match ready.finish with
        | .ok done => done.tokens.reverse
        | .error error => (ready.emit (.unreadable error)).tokens.reverse
      | c :: cs =>
        match ready.token c cs with
        | .ok next => run fuel next
        | .error error => (ready.emit (.unreadable error)).tokens.reverse

end Scan

/-- The tokens of a text. -/
def tokens (text : List Char) : List Token := Scan.run (text.length + 1) (Scan.start text)

end LayerGraph.Yaml
