import LayerGraph.Error
import LayerGraph.Flow.Lexeme
import LayerGraph.Flow.Token
import LayerGraph.Text.Identifier

/-! # Reading statements

    Lines of statements are read into tokens one line at a time. Between lines the reader keeps
    which brackets are open, whether a backslash joined the line to the next, the columns of the
    indentations it is in, and a string that is still open. Characters that begin no token become
    tokens of their own; only an open bracket or string at the end, and an indentation that returns
    to no earlier column, keep a text from being read.
-/

namespace LayerGraph.Flow

/-- A string that is still open: where it began, what it holds so far, and its quotes. -/
structure OpenString where
  line : Nat
  column : Nat
  text : List Char
  quote : Char
  triple : Bool
deriving DecidableEq, Repr

/-- What the reader keeps between lines. -/
structure LexState where
  /-- Opening less closing brackets; it may fall below zero. -/
  brackets : Int
  joined : Bool
  /-- The columns of the indentations, innermost first, without the outermost column zero. -/
  indents : List Nat
  open? : Option OpenString
  /-- Whether an open string has to be closed on the next line unless that line ends in a
      backslash. It stays so after a string that was not closed in time. -/
  strict : Bool
deriving Repr

namespace LexState

/-- The state at the beginning of a text. -/
def start : LexState := ⟨0, false, [], none, false⟩

/-- The column of the innermost indentation. -/
def column (st : LexState) : Nat := st.indents.head?.getD 0

/-- The state after a bracket. -/
def afterOperator (st : LexState) (op : String) : LexState :=
  if openers.contains op then { st with brackets := st.brackets + 1 }
  else if closers.contains op then { st with brackets := st.brackets - 1 }
  else st

end LexState

/-! ### Inside a line -/

/-- The blanks between tokens. -/
def isGap (c : Char) : Bool := c == ' ' || c == '\t' || c == '\x0c'

/-- Whether a word can be a name by its first character. -/
def wordKind (text : List Char) : TokenKind :=
  match text with
  | c :: _ => if Text.isIdentifierStart c then .name else .operator
  | [] => .operator

/-- What a lexeme does: the token it is, if it is one, the state after it, and the text after it
    unless it takes the rest of the line. -/
def lexemeStep (st : LexState) (line column : Nat) (lexeme : Lexeme) (text rest : List Char) :
    Option Token × LexState × List Char :=
  let token (kind : TokenKind) : Option Token := some ⟨kind, text, line, column⟩
  match lexeme with
  | .continuation => (none, { st with joined := true }, rest)
  | .comment => (token .comment, st, rest)
  | .number => (token .number, st, rest)
  | .lineEnd => (token (if 0 < st.brackets then .lineBreak else .newline), st, rest)
  | .operator => (token .operator, st.afterOperator (String.ofList text), rest)
  | .string => (token .string, st, rest)
  | .word => (token (wordKind text), st, rest)
  | .openString quote =>
    (none, { st with open? := some ⟨line, column, text ++ rest, quote, false⟩, strict := true }, [])
  | .tripleQuote quote =>
    match closeLength quote true rest with
    | some n => (some ⟨.string, text ++ rest.take n, line, column⟩, st, rest.drop n)
    | none => (none, { st with open? := some ⟨line, column, text ++ rest, quote, true⟩ }, [])

/-- The tokens of the rest of a line, from a column on. The first number bounds the count of
    steps. -/
def scan : Nat → LexState → Nat → Nat → List Char → List Token × LexState
  | 0, st, _, _, _ => ([], st)
  | _ + 1, st, _, _, [] => ([], st)
  | fuel + 1, st, line, column, c :: cs =>
    let gap := ((c :: cs).takeWhile isGap).length
    let after := (c :: cs).drop gap
    match after, Lexeme.next? after with
    | [], _ => ([], st)
    | _, none =>
      let (tokens, final) := scan fuel st line (column + 1) cs
      (⟨.stray, [c], line, column⟩ :: tokens, final)
    | _, some (lexeme, length) =>
      let step :=
        lexemeStep st line (column + gap) lexeme (after.take length) (after.drop length)
      let next := column + (c :: cs).length - step.2.2.length
      let (tokens, final) := scan fuel step.2.1 line next step.2.2
      (step.1.toList ++ tokens, final)

/-! ### Indentation -/

/-- The column that the blanks in front of a statement reach. A tab goes to the next multiple of
    eight, and a form feed starts anew. -/
def indentColumn (blanks : List Char) : Nat :=
  blanks.foldl
    (fun column c => if c = ' ' then column + 1 else if c = '\t' then (column / 8 + 1) * 8 else 0) 0

/-- Leaves the indentations that are deeper than a column. The column must then be that of the
    innermost one. -/
def leave (target : Nat) : List Nat → Option (Nat × List Nat)
  | [] => if target = 0 then some (0, []) else none
  | column :: outer =>
    if target < column then (leave target outer).map fun left => (left.1 + 1, left.2)
    else if target = column then some (0, column :: outer)
    else none

/-- The tokens for the indentation of a statement, and the state after them. -/
def indentStep (st : LexState) (line : Nat) (blanks : List Char) :
    Except FlowFault (List Token × LexState) :=
  let target := indentColumn blanks
  if st.column < target then
    .ok ([⟨.indent, blanks, line, 0⟩], { st with indents := target :: st.indents })
  else
    match leave target st.indents with
    | some (left, indents) =>
      .ok (List.replicate left ⟨.dedent, [], line, blanks.length⟩, { st with indents := indents })
    | none => .error (.looseIndent line)

/-! ### Lines -/

/-- The tokens of a line without a statement: a comment, if there is one, and the line break. -/
def emptyLine (line column : Nat) (rest : List Char) : List Token :=
  match rest with
  | '#' :: _ =>
    let comment := (rest.reverse.dropWhile fun c => c == '\r' || c == '\n').reverse
    [⟨.comment, comment, line, column⟩,
     ⟨.lineBreak, rest.drop comment.length, line, column + comment.length⟩]
  | _ => [⟨.lineBreak, rest, line, column⟩]

/-- Whether a line without its blanks has no statement. -/
def isEmptyLine : List Char → Bool
  | c :: _ => c == '#' || c == '\r' || c == '\n'
  | [] => true

/-- Whether a line ends in a backslash. -/
def endsJoined (text : List Char) : Bool :=
  match text.reverse with
  | '\n' :: '\\' :: _ => true
  | '\n' :: '\r' :: '\\' :: _ => true
  | _ => false

/-- A line inside an open string. -/
def continueString (st : LexState) (o : OpenString) (line : Nat) (text : List Char) :
    List Token × LexState :=
  match closeLength o.quote o.triple text with
  | some n =>
    let closed : Token := ⟨.string, o.text ++ text.take n, o.line, o.column⟩
    let (tokens, final) :=
      scan text.length { st with open? := none, strict := false } line n (text.drop n)
    (closed :: tokens, final)
  | none =>
    if st.strict && !endsJoined text then
      ([⟨.stray, o.text ++ text, o.line, o.column⟩], { st with open? := none })
    else ([], { st with open? := some { o with text := o.text ++ text } })

/-- A line at the start of a statement. -/
def statementLine (st : LexState) (line : Nat) (text : List Char) :
    Except FlowFault (List Token × LexState) :=
  let blanks := text.takeWhile isGap
  let rest := text.dropWhile isGap
  if isEmptyLine rest then .ok (emptyLine line blanks.length rest, st)
  else do
    let (layout, indented) ← indentStep st line blanks
    let (tokens, final) := scan rest.length indented line blanks.length rest
    return (layout ++ tokens, final)

/-- The tokens of one line, which ends in a line break. -/
def lexLine (st : LexState) (line : Nat) (text : List Char) :
    Except FlowFault (List Token × LexState) :=
  match st.open? with
  | some o => .ok (continueString st o line text)
  | none =>
    if st.brackets = 0 ∧ !st.joined then statementLine st line text
    else .ok (scan text.length { st with joined := false } line 0 text)

/-- The end of the text: no string and no bracket may be open, and all indentations are left. -/
def finish (st : LexState) (line : Nat) : Except FlowFault (List Token) :=
  match st.open? with
  | some o => .error (.openString o.line o.column)
  | none =>
    if st.brackets = 0 ∧ !st.joined then
      .ok (List.replicate st.indents.length ⟨.dedent, [], line, 0⟩ ++ [⟨.endMarker, [], line, 0⟩])
    else .error (.openBracket line)

/-- The tokens of lines, numbered from `line` on. -/
def lexLines (st : LexState) (line : Nat) : List (List Char) → Except FlowFault (List Token)
  | [] => finish st line
  | text :: rest => do
    let (tokens, next) ← lexLine st line (text ++ ['\n'])
    let others ← lexLines next (line + 1) rest
    return tokens ++ others

/-- The tokens of a text that is given by its lines. -/
def tokens (lines : List (List Char)) : Except FlowFault (List Token) := lexLines .start 1 lines

end LayerGraph.Flow
