import LayerGraph.Text.Word

/-! # Lexemes

    How long the token is that begins a text: numbers, operators, words, strings and comments. A
    length of zero means that none begins there. Of several kinds the first that matches counts, in
    the order of `Lexeme.next?`, and each takes as many characters as it can.
-/

namespace LayerGraph.Flow

/-! ### Numbers -/

/-- Whether a character is a decimal digit. -/
def isDecimal (c : Char) : Bool := decide ('0' ≤ c) && decide (c ≤ '9')

/-- Whether a character is a hexadecimal digit. -/
def isHexadecimal (c : Char) : Bool :=
  isDecimal c || (decide ('a' ≤ c) && decide (c ≤ 'f')) || (decide ('A' ≤ c) && decide (c ≤ 'F'))

/-- The length of a row of digits that goes on: an underscore may stand in front of each. -/
def tailRun (isDigit : Char → Bool) : List Char → Nat
  | '_' :: d :: rest => if isDigit d then tailRun isDigit rest + 2 else 0
  | d :: rest => if isDigit d then tailRun isDigit rest + 1 else 0
  | [] => 0

/-- The length of a row of digits. -/
def digitRun (isDigit : Char → Bool) : List Char → Nat
  | d :: rest => if isDigit d then tailRun isDigit rest + 1 else 0
  | [] => 0

/-- The length of an exponent. -/
def exponentLength : List Char → Nat
  | mark :: rest =>
    if mark = 'e' ∨ mark = 'E' then
      match rest with
      | sign :: digits =>
        if sign = '+' ∨ sign = '-' then
          if digitRun isDecimal digits = 0 then 0 else digitRun isDecimal digits + 2
        else if digitRun isDecimal rest = 0 then 0 else digitRun isDecimal rest + 1
      | [] => 0
    else 0
  | [] => 0

/-- The length of a number with a point or an exponent. -/
def floatLength (cs : List Char) : Nat :=
  let whole := digitRun isDecimal cs
  match cs.drop whole with
  | '.' :: rest =>
    let decimals := digitRun isDecimal rest
    if whole = 0 ∧ decimals = 0 then 0
    else whole + 1 + decimals + exponentLength (rest.drop decimals)
  | rest => if whole = 0 ∨ exponentLength rest = 0 then 0 else whole + exponentLength rest

/-- The length of an integer with the letter of its base behind its zero. -/
def basedLength (letter capital : Char) (isDigit : Char → Bool) : List Char → Nat
  | '0' :: c :: rest =>
    if (c = letter ∨ c = capital) ∧ tailRun isDigit rest ≠ 0 then tailRun isDigit rest + 2 else 0
  | _ => 0

/-- The length of a decimal integer. One that begins with a zero is a row of zeros. -/
def decimalLength : List Char → Nat
  | '0' :: rest => tailRun (· == '0') rest + 1
  | cs => digitRun isDecimal cs

/-- The length of an integer. -/
def integerLength (cs : List Char) : Nat :=
  [basedLength 'x' 'X' isHexadecimal cs, basedLength 'b' 'B' (fun c => c == '0' || c == '1') cs,
   basedLength 'o' 'O' (fun c => decide ('0' ≤ c) && decide (c ≤ '7')) cs].find? (· != 0)
    |>.getD (decimalLength cs)

/-- Whether the character at a place marks an imaginary number. -/
def isImaginaryAt (cs : List Char) (n : Nat) : Bool :=
  match cs.drop n with
  | c :: _ => c == 'j' || c == 'J'
  | [] => false

/-- The length of a number. -/
def numberLength (cs : List Char) : Nat :=
  let whole := digitRun isDecimal cs
  let float := floatLength cs
  if whole ≠ 0 ∧ isImaginaryAt cs whole then whole + 1
  else if float ≠ 0 then if isImaginaryAt cs float then float + 1 else float
  else integerLength cs

/-! ### Operators and words -/

/-- The operators, longer ones before those they begin with. -/
def operators : List String :=
  ["~", "\x7d", "|=", "|", "\x7b", "^=", "^", "]", "[", "@=", "@", ">>=", ">>", ">=", ">", "==",
   "=", "<=", "<<=", "<<", "<", ";", ":=", ":", "/=", "//=", "//", "/", "...", ".", "->", "-=", "-",
   ",", "+=", "+", "*=", "**=", "**", "*", ")", "(", "&=", "&", "%=", "%", "!="]

/-- The length of an operator. -/
def operatorLength (cs : List Char) : Nat :=
  ((operators.find? fun op => op.toList.isPrefixOf cs).map (·.length)).getD 0

/-- The length of a word. -/
def wordLength (cs : List Char) : Nat := (cs.takeWhile Text.isWord).length

/-- The length of a comment. -/
def commentLength : List Char → Nat
  | '#' :: rest => (rest.takeWhile fun c => c != '\r' && c != '\n').length + 1
  | _ => 0

/-- The length of the end of a line. -/
def lineEndLength : List Char → Nat
  | '\n' :: _ => 1
  | '\r' :: '\n' :: _ => 2
  | _ => 0

/-- The length of a backslash at the end of a line, with the end of the line. -/
def continuationLength : List Char → Nat
  | '\\' :: rest => if lineEndLength rest = 0 then 0 else lineEndLength rest + 1
  | _ => 0

/-! ### Strings -/

/-- The letters that may stand in front of a string, in any case. -/
def stringMarks : List String := ["", "b", "r", "u", "f", "br", "rb", "fr", "rf"]

/-- Whether a character is a quote. -/
def isQuote (c : Char) : Bool := c == '"' || c == '\''

/-- The number of letters in front of the quote with which a string begins. -/
def markLength? (cs : List Char) : Option Nat :=
  [0, 1, 2].find? fun n =>
    stringMarks.contains (String.ofList ((cs.take n).map Char.toLower)) &&
      ((cs.drop n).head?.map isQuote).getD false

/-- The length of the rest of a string that has to end on its line, and whether it ends in a
    backslash at the end of the line instead of its quote. -/
def bodyLength (quote : Char) : List Char → Option (Nat × Bool)
  | [] => none
  | '\\' :: '\n' :: _ => some (2, true)
  | '\\' :: '\r' :: '\n' :: _ => some (3, true)
  | '\\' :: _ :: rest => (bodyLength quote rest).map fun end_ => (end_.1 + 2, end_.2)
  | c :: rest =>
    if c = quote then some (1, false)
    else if c = '\n' ∨ c = '\\' then none
    else (bodyLength quote rest).map fun end_ => (end_.1 + 1, end_.2)

/-- The length up to the end of a string that may go on over lines. -/
def closeLength (quote : Char) (triple : Bool) : List Char → Option Nat
  | [] => none
  | '\\' :: '\n' :: _ => none
  | '\\' :: _ :: rest => (closeLength quote triple rest).map (· + 2)
  | c :: rest =>
    if c = '\\' then none
    else if c = quote then
      if triple then
        if rest.take 2 = [quote, quote] then some 3 else (closeLength quote triple rest).map (· + 1)
      else some 1
    else (closeLength quote triple rest).map (· + 1)

section strings
variable {quote : Char}

/-- A backslash takes the character behind it into the string, but ends the part on this line in
    front of a line end. -/
theorem bodyLength_escape (c : Char) (cs : List Char) :
    bodyLength quote ('\\' :: c :: cs) =
      if c = '\n' then some (2, true)
      else if c = '\r' ∧ cs.head? = some '\n' then some (3, true)
      else (bodyLength quote cs).map fun end_ => (end_.1 + 2, end_.2) := by
  by_cases hfeed : c = '\n'
  · subst hfeed
    rfl
  rw [if_neg hfeed]
  by_cases hreturn : c = '\r'
  · subst hreturn
    cases cs with
    | nil => rfl
    | cons d cs =>
      by_cases hd : d = '\n'
      · subst hd
        rfl
      · rw [if_neg (fun h => hd (Option.some.inj h.2)), bodyLength]
        · exact nofun
        · rintro _ - hsame
          exact hd (List.cons.inj hsame).1
  · rw [if_neg (fun h => hreturn h.1), bodyLength]
    · exact hfeed
    · exact fun _ hsame => absurd hsame hreturn

theorem bodyLength_of_ne {c : Char} (hc : c ≠ '\\') (cs : List Char) :
    bodyLength quote (c :: cs) =
      if c = quote then some (1, false)
      else if c = '\n' then none
      else (bodyLength quote cs).map fun end_ => (end_.1 + 1, end_.2) := by
  rw [bodyLength.eq_def]
  split <;> simp_all

/-- A backslash takes the character behind it into the string, unless that is a line end. -/
theorem closeLength_escape {triple : Bool} (c : Char) (cs : List Char) :
    closeLength quote triple ('\\' :: c :: cs) =
      if c = '\n' then none else (closeLength quote triple cs).map (· + 2) := by
  by_cases hfeed : c = '\n'
  · subst hfeed
    rfl
  · rw [if_neg hfeed, closeLength]
    exact hfeed

theorem closeLength_of_ne {triple : Bool} {c : Char} (hc : c ≠ '\\') (cs : List Char) :
    closeLength quote triple (c :: cs) =
      if c = quote then
        if triple then
          if cs.take 2 = [quote, quote] then some 3 else (closeLength quote triple cs).map (· + 1)
        else some 1
      else (closeLength quote triple cs).map (· + 1) := by
  rw [closeLength.eq_def]
  split <;> simp_all

end strings

/-! ### The next lexeme -/

/-- What a lexeme is. -/
inductive Lexeme where
  /-- A backslash that joins a line to the next. -/
  | continuation
  | comment
  /-- The opening of a string between three quotes. -/
  | tripleQuote (quote : Char)
  | number
  | lineEnd
  | operator
  /-- A string that is closed on its line. -/
  | string
  /-- A string that goes on after a backslash at the end of the line. -/
  | openString (quote : Char)
  | word
deriving DecidableEq, Repr

namespace Lexeme

/-- A string between three quotes, or between single ones, and the length of its first part. -/
def stringAt (cs : List Char) : Option (Lexeme × Nat) :=
  match markLength? cs with
  | none => none
  | some marks =>
    match cs.drop marks with
    | [] => none
    | quote :: rest =>
      (bodyLength quote rest).map fun end_ =>
        (if end_.2 then openString quote else string, marks + 1 + end_.1)

/-- The opening of a string between three quotes. -/
def tripleAt (cs : List Char) : Option (Lexeme × Nat) :=
  match markLength? cs with
  | none => none
  | some marks =>
    match cs.drop marks with
    | a :: b :: c :: _ => if a = b ∧ b = c then some (tripleQuote a, marks + 3) else none
    | _ => none

/-- A lexeme of a known kind, unless its length is zero. -/
def ofLength (kind : Lexeme) (length : Nat) : Option (Lexeme × Nat) :=
  if length = 0 then none else some (kind, length)

/-- The lexeme that begins a text, and its length. -/
def next? (cs : List Char) : Option (Lexeme × Nat) :=
  (ofLength continuation (continuationLength cs))
    <|> (ofLength comment (commentLength cs))
    <|> tripleAt cs
    <|> (ofLength number (numberLength cs))
    <|> (ofLength lineEnd (lineEndLength cs))
    <|> (ofLength operator (operatorLength cs))
    <|> stringAt cs
    <|> (ofLength word (wordLength cs))

end Lexeme

end LayerGraph.Flow
