import LayerGraph.Yaml.Property

/-! # Text of scalars

    The four ways to write a scalar: plain, in single quotes, in double quotes, and as a block of
    lines. Over a line end the first three are folded: a single one counts as a space, and of more
    the first is dropped. A block keeps its line ends, or folds those between lines that do not
    begin with a space.
-/

namespace LayerGraph.Yaml

/-- What the line ends between two words count as: `first` is the first of them. -/
def foldedBreaks (first : Char) (others : List Char) : List Char :=
  if first ≠ '\n' then first :: others
  else if others.isEmpty then [' ']
  else others

/-! ### Quoted scalars -/

/-- Line ends with spaces and tabs around them, and the characters after them. A mark of a document
    at the beginning of a line is not allowed here. -/
def quotedBreaks : Bool → List Char → Except Error (List Char × List Char)
  | _, [] => .ok ([], [])
  | atLineStart, c :: cs =>
    if atLineStart && atDocumentMark (c :: cs) then .error .malformed
    else if isSpace c then quotedBreaks false cs
    else if isBreak c then do
      let (others, rest) ← quotedBreaks true cs
      return (breakChar c :: others, rest)
    else .ok ([], c :: cs)

/-- What a gap between two words counts as, and the characters after it. -/
def quotedGap (cs : List Char) : Except Error (List Char × List Char) :=
  match cs.dropWhile isSpace with
  | [] => .error .malformed
  | c :: rest =>
    if isBreak c then do
      let (others, after) ← quotedBreaks true rest
      return (foldedBreaks (breakChar c) others, after)
    else .ok (cs.takeWhile isSpace, c :: rest)

/-- The character that a one-letter escape stands for. -/
def simpleEscape? : Char → Option Char
  | '0' => some '\x00'
  | 'a' => some '\x07'
  | 'b' => some '\x08'
  | 't' => some '\t'
  | '\t' => some '\t'
  | 'n' => some '\n'
  | 'v' => some '\x0b'
  | 'f' => some '\x0c'
  | 'r' => some '\r'
  | 'e' => some '\x1b'
  | ' ' => some ' '
  | '"' => some '"'
  | '\\' => some '\\'
  | '/' => some '/'
  | 'N' => some '\x85'
  | '_' => some '\xa0'
  | 'L' => some '\u2028'
  | 'P' => some '\u2029'
  | _ => none

/-- The number of digits of an escape that gives a character by its number. -/
def escapeWidth? : Char → Option Nat
  | 'x' => some 2
  | 'u' => some 4
  | 'U' => some 8
  | _ => none

/-- The character with a number. A surrogate is none, and two of them are no pair. -/
def charOfNumber (n : Nat) : Except Error Char :=
  if 0x10FFFF < n then .error (.scalar .noSuchCharacter)
  else if 0xD800 ≤ n ∧ n ≤ 0xDFFF then .error .loneSurrogate
  else .ok (Char.ofNat n)

/-- What an escape stands for, read behind its backslash. An escaped line end counts as nothing. -/
def readEscape : List Char → Except Error (List Char × List Char)
  | [] => .error .malformed
  | c :: cs =>
    match simpleEscape? c, escapeWidth? c with
    | some plain, _ => .ok ([plain], cs)
    | none, some width => do
      let (n, rest) ← readHex width 0 cs
      return ([← charOfNumber n], rest)
    | none, none => if isBreak c then quotedBreaks true cs else .error .malformed

/-- The text of a scalar in quotes up to its closing quote, and the characters after it. The number
    bounds the steps. -/
def readQuoted (double : Bool) : Nat → List Char → Except Error (List Char × List Char)
  | 0, _ => .error .malformed
  | _ + 1, [] => .error .malformed
  | fuel + 1, c :: cs =>
    if double && c == '"' then .ok ([], cs)
    else if !double && c == '\'' then
      match cs with
      | '\'' :: rest => do
        let (others, after) ← readQuoted double fuel rest
        return ('\'' :: others, after)
      | _ => .ok ([], cs)
    else if double && c == '\\' then do
      let (chars, rest) ← readEscape cs
      let (others, after) ← readQuoted double fuel rest
      return (chars ++ others, after)
    else if isGap c then do
      let (gap, rest) ← quotedGap (c :: cs)
      let (others, after) ← readQuoted double fuel rest
      return (gap ++ others, after)
    else do
      let (others, after) ← readQuoted double fuel cs
      return (c :: others, after)

/-! ### Plain scalars -/

/-- The characters that end a word of a plain scalar inside brackets. -/
def isFlowMark (c : Char) : Bool := ",?[]\x7b\x7d".toList.contains c

/-- Whether the colon before these characters ends a plain scalar. -/
def endsKey (inFlow : Bool) : List Char → Bool
  | [] => true
  | c :: _ => isGap c || (inFlow && ",[]\x7b\x7d".toList.contains c)

/-- The next word of a plain scalar. -/
def plainWord (inFlow : Bool) : List Char → List Char
  | [] => []
  | c :: cs =>
    if isGap c || (c == ':' && endsKey inFlow cs) || (inFlow && isFlowMark c) then []
    else c :: plainWord inFlow cs

/-- Line ends with spaces around them, the characters after them, and whether a mark of a document
    stands there. -/
def plainBreaks : Bool → List Char → List Char × List Char × Bool
  | _, [] => ([], [], false)
  | atLineStart, c :: cs =>
    if atLineStart && atDocumentMark (c :: cs) then ([], c :: cs, true)
    else if c = ' ' then plainBreaks false cs
    else if isBreak c then
      let (others, rest, marked) := plainBreaks true cs
      (breakChar c :: others, rest, marked)
    else ([], c :: cs, false)

/-- What comes after a word of a plain scalar. -/
structure PlainGap where
  /-- What the gap counts as if a further word follows. -/
  text : List Char
  rest : List Char
  brokeLine : Bool

/-- The gap after a word. No gap, and a mark of a document, count as nothing. -/
def plainGap (cs : List Char) : PlainGap :=
  match cs.dropWhile (· == ' ') with
  | [] => ⟨cs, [], false⟩
  | c :: rest =>
    if isBreak c then
      let (others, after, marked) := plainBreaks true rest
      ⟨if marked then [] else foldedBreaks (breakChar c) others, after, true⟩
    else ⟨cs.takeWhile (· == ' '), c :: rest, false⟩

/-- What was read of a plain scalar. -/
structure PlainText where
  text : List Char
  place : Cursor
  /-- Whether the scalar ended at the end of a line. -/
  brokeLine : Bool

/-- A plain scalar from its first word on. Outside brackets a word that is indented less than
    `indent` does not belong to it. The number bounds the steps. -/
def readPlain (inFlow : Bool) (indent : Nat) : Nat → List Char → Cursor → Bool → PlainText
  | 0, _, place, brokeLine => ⟨[], place, brokeLine⟩
  | fuel + 1, gap, place, brokeLine =>
    let word := plainWord inFlow place.rest
    if place.rest.head? = some '#' || word.isEmpty then ⟨[], place, brokeLine⟩
    else
      let behind := place.forward word.length
      let next := plainGap behind.rest
      let after := behind.moveTo next.rest
      if next.text.isEmpty || after.rest.head? = some '#' || (!inFlow && after.column < indent) then
        ⟨gap ++ word, after, next.brokeLine⟩
      else
        let others := readPlain inFlow indent fuel next.text after next.brokeLine
        ⟨gap ++ word ++ others.text, others.place, others.brokeLine⟩

/-! ### Block scalars -/

/-- What happens to the line ends behind the last line of a block. -/
inductive Chomping where
  | clip
  | strip
  | keep
deriving DecidableEq, Repr

/-- The head of a block scalar. -/
structure BlockHead where
  chomping : Chomping
  /-- The indentation beyond that of the surrounding collection, if it is given. -/
  increment : Option Nat
deriving DecidableEq, Repr

/-- The sign for what happens to the last line ends. -/
def chomping? : Char → Option Chomping
  | '+' => some .keep
  | '-' => some .strip
  | _ => none

/-- An increment; zero is none. -/
def increment? (c : Char) : Option Nat :=
  if '1' ≤ c ∧ c ≤ '9' then some (c.toNat - 48) else none

/-- The head of a block scalar: a sign and an increment in any order, or one or none of them. -/
def readBlockHead (cs : List Char) : Except Error (BlockHead × List Char) :=
  let signed := cs.head?.bind chomping?
  let afterSign := if signed.isSome then cs.drop 1 else cs
  let increment := afterSign.head?.bind increment?
  let afterIncrement := if increment.isSome then afterSign.drop 1 else afterSign
  let late :=
    if signed.isSome || increment.isNone then none else afterIncrement.head?.bind chomping?
  let rest := if late.isSome then afterIncrement.drop 1 else afterIncrement
  let head := { chomping := (signed.or late).getD .clip, increment := increment }
  if atSpaceOrLineEnd rest then .ok (head, rest) else .error .malformed

/-- The blank lines at the beginning of a block, the widest of their indentations with that of the
    first line that is not blank, and the place reached. The number bounds the steps. -/
def widestIndent : Nat → Nat → Cursor → List Char × Nat × Cursor
  | 0, widest, place => ([], widest, place)
  | fuel + 1, widest, place =>
    match place.rest with
    | [] => ([], widest, place)
    | c :: _ =>
      if c = ' ' then widestIndent fuel (max widest place.next.column) place.next
      else if isBreak c then
        let (others, width, after) := widestIndent fuel widest place.next
        (breakChar c :: others, width, after)
      else ([], widest, place)

/-- Blank lines with at most `indent` spaces each, and the place behind the spaces of the next
    line. The number bounds the steps. -/
def blankLines (indent : Nat) : Nat → Cursor → List Char × Cursor
  | 0, place => ([], place)
  | fuel + 1, place =>
    match place.rest with
    | [] => ([], place)
    | c :: _ =>
      if c = ' ' then
        if place.column < indent then blankLines indent fuel place.next else ([], place)
      else if isBreak c then
        let (others, after) := blankLines indent fuel place.next
        (breakChar c :: others, after)
      else ([], place)

/-- What was read of the lines of a block. -/
structure BlockText where
  text : List Char
  /-- The end of the last line. -/
  lastBreak : Option Char
  /-- The ends of the blank lines after it. -/
  blank : List Char
  place : Cursor

/-- Whether a line of a block with this indentation begins here. -/
def atBlockLine (indent : Nat) (place : Cursor) : Bool :=
  place.column == indent && !place.rest.isEmpty

/-- Whether a space or tab comes next. -/
def atSpace (place : Cursor) : Bool := place.rest.head?.any isSpace

/-- The lines of a block, behind blank lines with the ends `before`. The number bounds the steps. -/
def blockLines (folded : Bool) (indent : Nat) : Nat → List Char → Cursor → BlockText
  | 0, before, place => ⟨[], none, before, place⟩
  | fuel + 1, before, place =>
    if atBlockLine indent place then
      let line := place.rest.takeWhile (!isBreak ·)
      let behind := place.forward line.length
      let lastBreak := behind.lineBreak?.map (·.1)
      let nextLine := (behind.lineBreak?.map (·.2)).getD behind
      let (blank, after) := blankLines indent (nextLine.rest.length + 1) nextLine
      if atBlockLine indent after then
        let isFolded := folded && lastBreak == some '\n' && !atSpace place && !atSpace after
        let joint :=
          if !isFolded then lastBreak.toList else if blank.isEmpty then [' '] else []
        let others := blockLines folded indent fuel blank after
        { others with text := before ++ line ++ joint ++ others.text }
      else ⟨before ++ line, lastBreak, blank, after⟩
    else ⟨[], none, before, place⟩

/-- The text of a block scalar, behind its mark, and the place after it. Its lines are indented at
    least by `least`. -/
def readBlock (folded : Bool) (least : Nat) (place : Cursor) :
    Except Error (List Char × Cursor) := do
  let (head, rest) ← readBlockHead place.rest
  let first ← (place.moveTo rest).skipLineEnd
  let bound := first.rest.length + 1
  let (indent, blank, start) := match head.increment with
    | some increment =>
      let indent := least + increment - 1
      let (blank, start) := blankLines indent bound first
      (indent, blank, start)
    | none =>
      let (blank, widest, start) := widestIndent bound 0 first
      (max least widest, blank, start)
  let block := blockLines folded indent bound blank start
  let ending := match head.chomping with
    | .strip => []
    | .clip => block.lastBreak.toList
    | .keep => block.lastBreak.toList ++ block.blank
  return (block.text ++ ending, block.place)

end LayerGraph.Yaml
