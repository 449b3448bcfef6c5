import LayerGraph.Text.Digit
import LayerGraph.Yaml.Token

/-! # Names, tags and directives

    What stands before a node or a document and says something about it: the name of an anchor or
    alias, a tag, a directive. Each reader answers what it read and the characters after it.
-/

namespace LayerGraph.Yaml

/-- A name, and the characters after it. -/
def readName (cs : List Char) : Except Error (String × List Char) :=
  let name := cs.takeWhile isNameChar
  if name.isEmpty then .error .malformed
  else .ok (String.ofList name, cs.dropWhile isNameChar)

/-! ### Anchors -/

/-- Whether a name of an anchor may end here. -/
def atNameEnd : List Char → Bool
  | [] => true
  | c :: _ => isGap c || "?:,]\x7d%@`".toList.contains c

/-- The name of an anchor or alias, behind its mark. -/
def readAnchorName (cs : List Char) : Except Error (String × List Char) := do
  let (name, rest) ← readName cs
  if atNameEnd rest then return (name, rest) else throw .malformed

/-! ### Tags -/

/-- The number that `count` hexadecimal digits are, and the characters after them. -/
def readHex : Nat → Nat → List Char → Except Error (Nat × List Char)
  | 0, value, cs => .ok (value, cs)
  | count + 1, value, c :: cs =>
    match Text.hexValue? c with
    | some digit => readHex count (16 * value + digit) cs
    | none => .error .malformed
  | _ + 1, _, [] => .error .malformed

/-- Whether a character may stand in the name of a tag. -/
def isTagChar (c : Char) : Bool := c.isAlphanum || "-;/?:@&=+$,_.!~*'()[]%".toList.contains c

/-- Bytes as text. -/
def bytesText (bytes : List UInt8) : Except Error (List Char) :=
  match String.fromUTF8? ⟨bytes.toArray⟩ with
  | some s => .ok s.toList
  | none => .error .malformed

/-- The characters of a tag's name. Bytes may be written as a percent sign and two digits; those
    in a row, gathered in `bytes`, are text together. The first number bounds the steps. -/
def readTagChars : Nat → List UInt8 → List Char → Except Error (List Char × List Char)
  | 0, _, _ => .error .malformed
  | fuel + 1, bytes, '%' :: cs => do
    let (byte, rest) ← readHex 2 0 cs
    readTagChars fuel (bytes ++ [UInt8.ofNat byte]) rest
  | fuel + 1, bytes, c :: cs => do
    let before ← bytesText bytes
    if isTagChar c then
      let (others, rest) ← readTagChars fuel [] cs
      return (before ++ c :: others, rest)
    else return (before, c :: cs)
  | _ + 1, bytes, [] => do return (← bytesText bytes, [])

/-- The name of a tag, which must not be empty. -/
def readTagName (cs : List Char) : Except Error (String × List Char) := do
  let (name, rest) ← readTagChars (cs.length + 1) [] cs
  if rest.length = cs.length then throw .malformed else return (String.ofList name, rest)

/-- A handle: an exclamation mark, or a name between two of them. -/
def readHandle : List Char → Except Error (String × List Char)
  | '!' :: ' ' :: cs => .ok ("!", ' ' :: cs)
  | '!' :: cs =>
    match cs.dropWhile isNameChar with
    | '!' :: rest => .ok ("!" ++ String.ofList (cs.takeWhile isNameChar) ++ "!", rest)
    | _ => .error .malformed
  | _ => .error .malformed

/-- Whether the word after the mark of a tag has a further exclamation mark. -/
def hasHandle (cs : List Char) : Bool :=
  (cs.takeWhile fun c => !(c == ' ' || isBreak c)).contains '!'

/-- What a tag says, behind its mark. -/
def readTagContent : List Char → Except Error (Token × List Char)
  | '<' :: cs => do
    match ← readTagName cs with
    | (name, '>' :: rest) => return (.tag none name, rest)
    | _ => throw .malformed
  | cs =>
    if atGap cs then .ok (.tag none "!", cs)
    else if hasHandle cs then do
      let (handle, afterHandle) ← readHandle ('!' :: cs)
      let (name, rest) ← readTagName afterHandle
      return (.tag (some handle) name, rest)
    else do
      let (name, rest) ← readTagName cs
      return (.tag (some "!") name, rest)

/-- A tag, behind its mark. A space or the end of the line has to follow. -/
def readTag (cs : List Char) : Except Error (Token × List Char) := do
  let (token, rest) ← readTagContent cs
  if atSpaceOrLineEnd rest then return (token, rest) else throw .malformed

/-! ### Directives -/

/-- A row of digits as a number. A number with very many digits is refused. -/
def readNumber (cs : List Char) : Except Error (Nat × List Char) :=
  let digits := cs.takeWhile Char.isDigit
  if digits.isEmpty then .error .malformed
  else if integerDigitLimit < digits.length then .error (.scalar .integerTooLong)
  else .ok (digits.foldl (fun n c => 10 * n + (c.toNat - 48)) 0, cs.dropWhile Char.isDigit)

/-- The characters from the next one that is no space. -/
def skipSpaces (cs : List Char) : List Char := cs.dropWhile (· == ' ')

/-- The version of a document, behind the word for it. -/
def readVersion (cs : List Char) : Except Error (Directive × List Char) := do
  match ← readNumber (skipSpaces cs) with
  | (major, '.' :: afterPoint) =>
    let (_, rest) ← readNumber afterPoint
    if atSpaceOrLineEnd rest then return (.version major, rest) else throw .malformed
  | _ => throw .malformed

/-- What a handle is to stand for, behind the word for it. -/
def readHandleDirective (cs : List Char) : Except Error (Directive × List Char) := do
  match ← readHandle (skipSpaces cs) with
  | (handle, ' ' :: afterHandle) =>
    let (start, rest) ← readTagName (skipSpaces afterHandle)
    if atSpaceOrLineEnd rest then return (.handle handle start, rest) else throw .malformed
  | _ => throw .malformed

/-- A directive, behind its mark. One with an unknown name goes to the end of the line. -/
def readDirective (cs : List Char) : Except Error (Directive × List Char) := do
  let (name, rest) ← readName cs
  if !atSpaceOrLineEnd rest then throw .malformed
  else if name == "YAML" then readVersion rest
  else if name == "TAG" then readHandleDirective rest
  else return (.other, rest.dropWhile (!isBreak ·))

end LayerGraph.Yaml
