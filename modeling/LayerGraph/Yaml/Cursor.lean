import LayerGraph.Error

/-! # Places in a YAML text

    A text is read from left to right by a *cursor*, which knows what lies ahead and where it is.
    Columns matter, since indentation does. Lines end with a line feed, the next-line character or
    one of the two Unicode separators; carriage returns are gone by the time a text is read.
-/

namespace LayerGraph.Yaml

/-- Why a text yields no value. -/
inductive Error where
  /-- The text is no YAML, or not a single document, or it asks for a type that there is not. -/
  | malformed
  /-- A scalar is not of the type it is said to be. -/
  | scalar (fault : ScalarFault)
  /-- An escape stands for a surrogate, which is no character. -/
  | loneSurrogate
deriving DecidableEq, Repr

/-! ### Characters -/

/-- Whether a character may stand in a text. -/
def isPrintable (c : Char) : Bool :=
  c == '\t' || c == '\n' || c == '\r' || (decide (0x20 ≤ c.toNat) && decide (c.toNat ≤ 0x7E)) ||
    c.toNat == 0x85 || (decide (0xA0 ≤ c.toNat) && decide (c.toNat ≤ 0xFFFD)) ||
    decide (0x10000 ≤ c.toNat)

/-- Whether a character ends a line. -/
def isBreak (c : Char) : Bool := c == '\n' || c == '\x85' || c == '\u2028' || c == '\u2029'

/-- Whether a character is a space or a tab. -/
def isSpace (c : Char) : Bool := c == ' ' || c == '\t'

/-- Whether a character separates words: a space, a tab or the end of a line. -/
def isGap (c : Char) : Bool := isSpace c || isBreak c

/-- What a line end counts as in the text of a scalar. -/
def breakChar (c : Char) : Char := if c = '\x85' then '\n' else c

/-- Whether a word ends here: at a gap or at the end of the text. -/
def atGap : List Char → Bool
  | [] => true
  | c :: _ => isGap c

/-- Whether a line ends here. -/
def atLineEnd : List Char → Bool
  | [] => true
  | c :: _ => isBreak c

/-- Whether a space comes next or the line ends. -/
def atSpaceOrLineEnd : List Char → Bool
  | [] => true
  | c :: _ => c == ' ' || isBreak c

/-- Whether a mark that begins or ends a document stands here. -/
def atDocumentMark : List Char → Bool
  | '-' :: '-' :: '-' :: rest => atGap rest
  | '.' :: '.' :: '.' :: rest => atGap rest
  | _ => false

/-- The characters of names: of anchors, tag handles and directives. -/
def isNameChar (c : Char) : Bool := c.isAlphanum || c == '-' || c == '_'

/-! ### Cursors -/

/-- A place in a text. -/
structure Cursor where
  rest : List Char
  /-- The number of characters before the place. -/
  index : Nat
  line : Nat
  column : Nat
deriving DecidableEq, Repr

namespace Cursor

/-- The beginning of a text. -/
def start (text : List Char) : Cursor := ⟨text, 0, 0, 0⟩

/-- The place behind the next character. A byte order mark takes no column. -/
def next (place : Cursor) : Cursor :=
  match place.rest with
  | [] => place
  | c :: rest =>
    if isBreak c then ⟨rest, place.index + 1, place.line + 1, 0⟩
    else if c = '\uFEFF' then ⟨rest, place.index + 1, place.line, place.column⟩
    else ⟨rest, place.index + 1, place.line, place.column + 1⟩

/-- The place behind that many characters. -/
def forward : Nat → Cursor → Cursor
  | 0, place => place
  | count + 1, place => forward count place.next

/-- The place at which `rest` begins, where `rest` is an end of what lies ahead. -/
def moveTo (place : Cursor) (rest : List Char) : Cursor :=
  place.forward (place.rest.length - rest.length)

/-- The place behind the longest run of such characters. -/
def skipWhile (place : Cursor) (p : Char → Bool) : Cursor :=
  place.forward (place.rest.takeWhile p).length

/-- The character at the end of the line, if the place is there, and the place behind it. -/
def lineBreak? (place : Cursor) : Option (Char × Cursor) :=
  match place.rest with
  | [] => none
  | c :: _ => if isBreak c then some (breakChar c, place.next) else none

/-- The place behind a comment, if one begins here. -/
def skipComment (place : Cursor) : Cursor :=
  match place.rest with
  | '#' :: _ => place.skipWhile (!isBreak ·)
  | _ => place

/-- The place behind the rest of a line that may hold nothing but spaces and a comment. -/
def skipLineEnd (place : Cursor) : Except Error Cursor :=
  let behind := (place.skipWhile (· == ' ')).skipComment
  if atLineEnd behind.rest then .ok behind.next else .error .malformed

end Cursor

end LayerGraph.Yaml
