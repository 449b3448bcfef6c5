/-! # Tokens of statements

    The tokens that the statements of the generated language fall into. Every token knows the line
    and the column at which it starts; lines count from one, columns from zero.
-/

namespace LayerGraph.Flow

/-- What a token is. -/
inductive TokenKind where
  | name
  | number
  | string
  | operator
  | comment
  /-- The end of a statement. -/
  | newline
  /-- The end of a line that ends no statement. -/
  | lineBreak
  | indent
  | dedent
  /-- A character that begins no token, or a string that is not closed in time. -/
  | stray
  | endMarker
deriving DecidableEq, Repr

/-- A token at its place. -/
structure Token where
  kind : TokenKind
  text : List Char
  line : Nat
  column : Nat
deriving DecidableEq, Repr

namespace Token

/-- Whether a token has the given text. -/
def is (t : Token) (text : String) : Bool := t.text == text.toList

/-- The text of a token as a string. -/
def string (t : Token) : String := String.ofList t.text

/-- Whether a token says something: it is neither a comment nor a mark of the layout. The end of a
    statement says something. -/
def carriesCode (t : Token) : Bool :=
  match t.kind with
  | .lineBreak | .comment | .indent | .dedent => false
  | _ => true

/-- Whether a token is an operator with one of these texts. -/
def isOperator (t : Token) (texts : List String) : Bool :=
  t.kind = .operator && texts.contains t.string

end Token

/-- The brackets that open a nested part. -/
def openers : List String := ["(", "[", "\x7b"]

/-- The brackets that close one. -/
def closers : List String := [")", "]", "\x7d"]

/-- The operators that give a new value to the targets on their left. -/
def assignments : List String :=
  ["=", ":=", "+=", "-=", "*=", "/=", "//=", "%=", "**=", "@=", "&=", "|=", "^=", ">>=", "<<="]

end LayerGraph.Flow
