/-! # Patterns

    Sets of texts, built from sets of characters by choice, sequence and repetition. Whether a text
    matches is decided character by character: after each the pattern becomes the one that what
    follows has to match.
-/

namespace LayerGraph.Text

/-- A set of texts. -/
inductive Pattern where
  /-- No text. -/
  | nothing
  /-- The empty text. -/
  | empty
  /-- A single character with a property. -/
  | one (p : Char → Bool)
  | both (first second : Pattern)
  | either (first second : Pattern)
  /-- Any number of texts in a row. -/
  | many (inner : Pattern)

namespace Pattern

/-- Whether the empty text matches. -/
def matchesEmpty : Pattern → Bool
  | nothing => false
  | empty => true
  | one _ => false
  | both first second => first.matchesEmpty && second.matchesEmpty
  | either first second => first.matchesEmpty || second.matchesEmpty
  | many _ => true

/-- A sequence, without parts that match nothing. -/
def sequence : Pattern → Pattern → Pattern
  | nothing, _ => nothing
  | empty, second => second
  | first, second => both first second

/-- A choice, without parts that match nothing. -/
def choice : Pattern → Pattern → Pattern
  | nothing, second => second
  | first, nothing => first
  | first, second => either first second

/-- The pattern of what may follow a character. -/
def after (c : Char) : Pattern → Pattern
  | nothing => nothing
  | empty => nothing
  | one p => if p c then empty else nothing
  | both first second =>
    let rest := sequence (first.after c) second
    if first.matchesEmpty then choice rest (second.after c) else rest
  | either first second => choice (first.after c) (second.after c)
  | many inner => sequence (inner.after c) (many inner)

/-- Whether a text matches. -/
def admits (pattern : Pattern) (cs : List Char) : Bool :=
  (cs.foldl (fun p c => p.after c) pattern).matchesEmpty

/-! ### Building patterns -/

/-- A given character. -/
def char (c : Char) : Pattern := one (· == c)

/-- One of some characters. -/
def anyOf (cs : String) : Pattern := one (cs.toList.contains ·)

/-- A given text. -/
def word (s : String) : Pattern := s.toList.foldr (fun c rest => both (char c) rest) empty

/-- One of some patterns. -/
def oneOf (patterns : List Pattern) : Pattern := patterns.foldr either nothing

/-- One of some texts. -/
def words (ws : List String) : Pattern := oneOf (ws.map word)

/-- Patterns in a row. -/
def row (patterns : List Pattern) : Pattern := patterns.foldr both empty

/-- A pattern or nothing. -/
def maybe (pattern : Pattern) : Pattern := either pattern empty

/-- One or more texts in a row. -/
def several (pattern : Pattern) : Pattern := both pattern (many pattern)

end Pattern

end LayerGraph.Text
