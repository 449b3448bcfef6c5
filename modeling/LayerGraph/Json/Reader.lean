import LayerGraph.Number.Reading
import LayerGraph.Value.Literal

/-! # Reading JSON

    A document is read from left to right and the first fault is reported with its place. Beyond
    the standard the reader knows the numbers `NaN`, `Infinity` and `-Infinity`, lets a key of an
    object repeat (the last value counts, at the first place), and tells integers, which may have
    any size, from numbers with a fraction or an exponent. An escape may stand for a surrogate
    without its partner, which is no character, so no text can hold it: the reader stops there.
-/

namespace LayerGraph.Json

open Number (Binary64 isDigit digitsValue splitSign)

/-! ### Faults

    A step of the reader answers what it read together with the characters after it. -/

/-- What is wrong with a document. -/
inductive Fault where
  | unexpectedMark
  | expectedValue
  | expectedKey
  | expectedColon
  | expectedComma
  | extraData
  | unterminatedString
  | controlCharacter
  | badEscape
  | badUnicodeEscape
deriving DecidableEq, Repr

/-- The words for a fault. -/
def Fault.text : Fault → String
  | .unexpectedMark => "Unexpected UTF-8 BOM (decode using utf-8-sig)"
  | .expectedValue => "Expecting value"
  | .expectedKey => "Expecting property name enclosed in double quotes"
  | .expectedColon => "Expecting ':' delimiter"
  | .expectedComma => "Expecting ',' delimiter"
  | .extraData => "Extra data"
  | .unterminatedString => "Unterminated string starting at"
  | .controlCharacter => "Invalid control character at"
  | .badEscape => "Invalid \\escape"
  | .badUnicodeEscape => "Invalid \\uXXXX escape"

/-- Why a document cannot be read. -/
inductive Error where
  /-- A fault, with the number of characters from its place to the end. -/
  | fault (fault : Fault) (remaining : Nat)
  /-- An integer has too many digits. -/
  | integerTooLong
  /-- An escape stands for a surrogate without its partner. -/
  | loneSurrogate
deriving DecidableEq, Repr

/-- The fault at the place where `rest` begins. -/
def failAt {α : Type} (fault : Fault) (rest : List Char) : Except Error α :=
  .error (.fault fault rest.length)

/-! ### Blanks and numbers -/

/-- The blanks between the parts of a document. -/
def isBlank (c : Char) : Bool := c == ' ' || c == '\t' || c == '\n' || c == '\r'

/-- The characters from the next one that is not blank. -/
def skipBlanks (cs : List Char) : List Char := cs.dropWhile isBlank

/-- The digits of a whole part: a lone zero, or digits that do not begin with one. -/
def wholePart : List Char → Option (List Char × List Char)
  | '0' :: rest => some (['0'], rest)
  | cs =>
    let digits := cs.takeWhile isDigit
    if digits.isEmpty then none else some (digits, cs.dropWhile isDigit)

/-- The digits behind a point, if a point with digits comes next. -/
def fractionPart : List Char → Option (List Char × List Char)
  | '.' :: cs =>
    let digits := cs.takeWhile isDigit
    if digits.isEmpty then none else some (digits, cs.dropWhile isDigit)
  | _ => none

/-- The exponent, if a mark with digits comes next. -/
def exponentPart : List Char → Option (Int × List Char)
  | c :: cs =>
    if c = 'e' ∨ c = 'E' then
      let signed := splitSign cs
      let digits := signed.2.takeWhile isDigit
      if digits.isEmpty then none
      else
        let size : Int := digitsValue digits
        some (if signed.1 then -size else size, signed.2.dropWhile isDigit)
    else none
  | [] => none

/-- The number with these parts: an integer unless it has a fraction or an exponent. -/
def numberOf (negative : Bool) (whole : List Char) (fraction : Option (List Char))
    (exponent : Option Int) : Except Error Value :=
  match fraction, exponent with
  | none, none =>
    if integerDigitLimit < whole.length then .error .integerTooLong
    else
      let size : Int := digitsValue whole
      .ok (.int (if negative then -size else size))
  | _, _ =>
    let decimals := fraction.getD []
    .ok (.float (Binary64.ofDecimal negative (digitsValue (whole ++ decimals))
      (exponent.getD 0 - decimals.length)))

/-- A number that begins after the sign. `start` is the place to blame if there is none. -/
def readNumber (negative : Bool) (start cs : List Char) : Except Error (Value × List Char) :=
  match wholePart cs with
  | none => failAt .expectedValue start
  | some (whole, afterWhole) =>
    let fraction := fractionPart afterWhole
    let afterFraction := (fraction.map (·.2)).getD afterWhole
    let exponent := exponentPart afterFraction
    let rest := (exponent.map (·.2)).getD afterFraction
    (numberOf negative whole (fraction.map (·.1)) (exponent.map (·.1))).map (·, rest)

/-! ### Strings -/

/-- The code unit written in four hexadecimal digits, if they and a further character follow. -/
def readUnit : List Char → Option (Nat × List Char)
  | a :: b :: c :: d :: next :: rest =>
    match Text.hexValue? a, Text.hexValue? b, Text.hexValue? c, Text.hexValue? d with
    | some w, some x, some y, some z => some (((w * 16 + x) * 16 + y) * 16 + z, next :: rest)
    | _, _, _, _ => none
  | _ => none

/-- Whether a code unit is the first of a pair of surrogates. -/
def isHighSurrogate (u : Nat) : Bool := decide (0xD800 ≤ u) && decide (u ≤ 0xDBFF)

/-- Whether a code unit is the second of a pair of surrogates. -/
def isLowSurrogate (u : Nat) : Bool := decide (0xDC00 ≤ u) && decide (u ≤ 0xDFFF)

/-- The character of a code unit that is not the first of a pair. -/
def unitChar (u : Nat) : Except Error Char :=
  if isLowSurrogate u then .error .loneSurrogate else .ok (Char.ofNat u)

/-- The character of a pair of surrogates. -/
def pairChar (high low : Nat) : Char :=
  Char.ofNat (0x10000 + (high - 0xD800) * 0x400 + (low - 0xDC00))

/-- The character that a one-letter escape stands for. -/
def simpleEscape? : Char → Option Char
  | '"' => some '"'
  | '\\' => some '\\'
  | '/' => some '/'
  | 'b' => some '\x08'
  | 'f' => some '\x0c'
  | 'n' => some '\n'
  | 'r' => some '\r'
  | 't' => some '\t'
  | _ => none

/-- What follows a high surrogate: the low one that completes it. A further character must follow
    the escape for it to count. -/
def readPartner (high : Nat) (rest : List Char) : Except Error (Char × List Char) :=
  match rest with
  | '\\' :: 'u' :: digits =>
    match readUnit digits with
    | some (low, after) =>
      if isLowSurrogate low then .ok (pairChar high low, after) else .error .loneSurrogate
    | none => failAt .badUnicodeEscape ('u' :: digits)
  | _ => .error .loneSurrogate

/-- The character of an escape, read behind its backslash. `start` is where the string begins. -/
def readEscape (start : List Char) : List Char → Except Error (Char × List Char)
  | [] => failAt .unterminatedString start
  | 'u' :: cs =>
    match readUnit cs with
    | none => failAt .badUnicodeEscape ('u' :: cs)
    | some (u, rest) =>
      if isHighSurrogate u then readPartner u rest else (unitChar u).map (·, rest)
  | c :: cs =>
    match simpleEscape? c with
    | some plain => .ok (plain, cs)
    | none => .error (.fault .badEscape (cs.length + 2))

/-- The characters of a string up to its closing quote. `start` is where the string begins, its
    opening quote included. -/
def readChars (start : List Char) : Nat → List Char → Except Error (List Char × List Char)
  | 0, _ => failAt .unterminatedString start
  | _ + 1, [] => failAt .unterminatedString start
  | _ + 1, '"' :: cs => .ok ([], cs)
  | fuel + 1, '\\' :: cs => do
    let (c, rest) ← readEscape start cs
    let (others, after) ← readChars start fuel rest
    return (c :: others, after)
  | fuel + 1, c :: cs =>
    if c.toNat < 32 then failAt .controlCharacter (c :: cs)
    else do
      let (others, after) ← readChars start fuel cs
      return (c :: others, after)

/-- A string, read behind its opening quote. -/
def readString (cs : List Char) : Except Error (String × List Char) := do
  let (chars, rest) ← readChars ('"' :: cs) (cs.length + 1) cs
  return (String.ofList chars, rest)

/-! ### Values -/

/-- The words that stand for a value. -/
def words : List (String × Value) :=
  [("null", .null), ("true", .bool true), ("false", .bool false), ("NaN", .float .nan),
   ("Infinity", .float (.infinity false)), ("-Infinity", .float (.infinity true))]

/-- The word that comes next, if one does. -/
def readWord (cs : List Char) : Option (Value × List Char) :=
  words.findSome? fun word =>
    if word.1.toList.isPrefixOf cs then some (word.2, cs.drop word.1.length) else none

/-- Writes a member into an object: in place if the key is there, else at the end. -/
def setMember (members : Entries) (key : String) (value : Value) : Entries :=
  members.set key value

mutual

/-- A value. The first number bounds the depth of the calls. -/
def readValue : Nat → List Char → Except Error (Value × List Char)
  | 0, cs => failAt .expectedValue cs
  | _ + 1, '"' :: cs => do
    let (s, rest) ← readString cs
    return (.str s, rest)
  | fuel + 1, '[' :: cs =>
    match skipBlanks cs with
    | ']' :: rest => .ok (.list [], rest)
    | items => do
      let (values, rest) ← readItems fuel items
      return (.list values, rest)
  | fuel + 1, '\x7b' :: cs =>
    match skipBlanks cs with
    | '\x7d' :: rest => .ok (.map [], rest)
    | members => do
      let (pairs, rest) ← readMembers fuel members []
      return (.ofEntries pairs, rest)
  | _ + 1, cs =>
    match readWord cs with
    | some found => .ok found
    | none =>
      match cs with
      | '-' :: after => readNumber true cs after
      | _ => readNumber false cs cs

/-- The items of a list up to its closing bracket. -/
def readItems : Nat → List Char → Except Error (List Value × List Char)
  | 0, cs => failAt .expectedValue cs
  | fuel + 1, cs => do
    let (first, rest) ← readValue fuel cs
    match skipBlanks rest with
    | ']' :: after => return ([first], after)
    | ',' :: more =>
      let (others, after) ← readItems fuel (skipBlanks more)
      return (first :: others, after)
    | other => failAt .expectedComma other

/-- The members of an object up to its closing brace, after those already read. -/
def readMembers : Nat → List Char → Entries → Except Error (Entries × List Char)
  | 0, cs, _ => failAt .expectedKey cs
  | fuel + 1, '"' :: cs, known => do
    let (key, afterKey) ← readString cs
    match skipBlanks afterKey with
    | ':' :: afterColon =>
      let (value, afterValue) ← readValue fuel (skipBlanks afterColon)
      let members := setMember known key value
      match skipBlanks afterValue with
      | '\x7d' :: rest => return (members, rest)
      | ',' :: more => readMembers fuel (skipBlanks more) members
      | other => failAt .expectedComma other
    | other => failAt .expectedColon other
  | _ + 1, cs, _ => failAt .expectedKey cs

end

/-! Each form of a value, of items and of members has its equation. -/

theorem readValue_quote (fuel : Nat) (cs : List Char) :
    readValue (fuel + 1) ('"' :: cs) = do
      let (s, rest) ← readString cs
      return (.str s, rest) := rfl

theorem readValue_bracket (fuel : Nat) (cs : List Char) :
    readValue (fuel + 1) ('[' :: cs) =
      match skipBlanks cs with
      | ']' :: rest => .ok (.list [], rest)
      | items => do
        let (values, rest) ← readItems fuel items
        return (.list values, rest) := rfl

theorem readValue_brace (fuel : Nat) (cs : List Char) :
    readValue (fuel + 1) ('\x7b' :: cs) =
      match skipBlanks cs with
      | '\x7d' :: rest => .ok (.map [], rest)
      | members => do
        let (pairs, rest) ← readMembers fuel members []
        return (.ofEntries pairs, rest) := rfl

theorem readItems_succ (fuel : Nat) (cs : List Char) :
    readItems (fuel + 1) cs = (do
      let (first, rest) ← readValue fuel cs
      match skipBlanks rest with
      | ']' :: after => return ([first], after)
      | ',' :: more =>
        let (others, after) ← readItems fuel (skipBlanks more)
        return (first :: others, after)
      | other => failAt .expectedComma other) := rfl

theorem readMembers_quote (fuel : Nat) (cs : List Char) (known : Entries) :
    readMembers (fuel + 1) ('"' :: cs) known = (do
      let (key, afterKey) ← readString cs
      match skipBlanks afterKey with
      | ':' :: afterColon =>
        let (value, afterValue) ← readValue fuel (skipBlanks afterColon)
        let members := setMember known key value
        match skipBlanks afterValue with
        | '\x7d' :: rest => return (members, rest)
        | ',' :: more => readMembers fuel (skipBlanks more) members
        | other => failAt .expectedComma other
      | other => failAt .expectedColon other) := rfl

/-- Reads a document. -/
def read (text : List Char) : Except Error Value :=
  match text with
  | '\uFEFF' :: _ => failAt .unexpectedMark text
  | _ => do
    let (value, rest) ← readValue (2 * text.length + 2) (skipBlanks text)
    match skipBlanks rest with
    | [] => return value
    | extra => failAt .extraData extra

/-! ### Places -/

/-- A place in a text: line and column count from one, the offset from zero. -/
structure Place where
  line : Nat
  column : Nat
  offset : Nat
deriving DecidableEq, Repr

/-- The place before the last `remaining` characters of a text. -/
def placeOf (text : List Char) (remaining : Nat) : Place :=
  let before := text.take (text.length - remaining)
  { line := before.count '\n' + 1
    column := (before.reverse.takeWhile (· != '\n')).length + 1
    offset := before.length }

/-- The words for a fault and its place. -/
def faultText (text : List Char) (fault : Fault) (remaining : Nat) : String :=
  let place := placeOf text remaining
  s!"{fault.text}: line {place.line} column {place.column} (char {place.offset})"

end LayerGraph.Json
