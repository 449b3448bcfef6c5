import LayerGraph.Value
import LayerGraph.Number.Shortest
import LayerGraph.Text.Lines
import LayerGraph.Text.Quoted

/-! # Values as text

    Two texts of a value: the *literal* that stands for it in generated code, and the *quoted* text
    that error messages show. They lay out sequences and mappings alike and differ in the leaves:
    a raw expression is written as it is in code and quoted in messages; a number that is not
    finite has no literal of its own in code and is built by a call; and a value of a foreign type
    has no literal at all.
-/

namespace LayerGraph

open Number (Binary64)

/-- Why a value has no text. -/
inductive NoText where
  /-- No literal stands for values of this type. -/
  | unsupported (typeName : String)
  /-- An integer has more digits than are ever written out. -/
  | integerTooLong
deriving DecidableEq, Repr

/-- The greatest number of decimal digits an integer is written with, or read from. -/
def integerDigitLimit : Nat := 4300

/-- An integer in decimal digits. -/
def integerText (n : Int) : Except NoText (List Char) :=
  if Nat.pow 10 integerDigitLimit ≤ n.natAbs then .error .integerTooLong
  else .ok (if n < 0 then '-' :: Nat.toDigits 10 n.natAbs else Nat.toDigits 10 n.natAbs)

/-- A truth value as it is written in code. -/
def boolText (b : Bool) : String := if b then "True" else "False"

namespace Value

/-- The items of a tuple in parentheses; a single item is followed by a comma. -/
def tupleText : List (List Char) → List Char
  | [single] => '(' :: single ++ [',', ')']
  | items => '(' :: Text.join [',', ' '] items ++ [')']

/-- The items of a list in brackets. -/
def listText (items : List (List Char)) : List Char := '[' :: Text.join [',', ' '] items ++ [']']

/-- The entries of a mapping in braces. -/
def mapText (entries : List (List Char)) : List Char :=
  '\x7b' :: Text.join [',', ' '] entries ++ ['\x7d']

/-- The items of a set in braces. Empty braces are a mapping, so the empty set is a call. -/
def setText : List (List Char) → List Char
  | [] => "set()".toList
  | items => mapText items

/-- How values are written. -/
structure Style where
  /-- The text of a value that holds no others. -/
  leaf : Value → Except NoText (List Char)
  /-- Whether a set is written with its items; else it counts as a leaf. -/
  opensSets : Bool

mutual

/-- Lays out a value. -/
def layout (style : Style) : Value → Except NoText (List Char)
  | .tuple items => tupleText <$> layoutAll style items
  | .list items => listText <$> layoutAll style items
  | .set items =>
    if style.opensSets then setText <$> layoutAll style items else style.leaf (.set items)
  | .map entries => mapText <$> layoutEntries style entries
  | v => style.leaf v

/-- The texts of the items of a sequence. -/
def layoutAll (style : Style) : List Value → Except NoText (List (List Char))
  | [] => .ok []
  | item :: rest => do
    let first ← layout style item
    let others ← layoutAll style rest
    return first :: others

/-- The texts of the entries of a mapping. -/
def layoutEntries (style : Style) : List (Value × Value) → Except NoText (List (List Char))
  | [] => .ok []
  | (key, value) :: rest => do
    let first ← layout style key
    let second ← layout style value
    let others ← layoutEntries style rest
    return (first ++ ':' :: ' ' :: second) :: others

end

/-- A number in code. The numbers that are not finite are calls. -/
def numberLiteral : Binary64 → String
  | .nan => "float(\"nan\")"
  | .infinity negative => if negative then "-float(\"inf\")" else "float(\"inf\")"
  | x => x.text

/-- The literal of a value that holds no others. -/
def literalLeaf : Value → Except NoText (List Char)
  | .null => .ok "None".toList
  | .bool b => .ok (boolText b).toList
  | .int n => integerText n
  | .float x => .ok (numberLiteral x).toList
  | .str s => .ok (Text.quote s.toList)
  | .expr source => .ok source.toList
  | v => .error (.unsupported v.typeName)

/-- The code of a value. -/
def literal (v : Value) : Except NoText String :=
  String.ofList <$> layout ⟨literalLeaf, false⟩ v

/-- The quoted text of a value that holds no others. -/
def quotedLeaf : Value → Except NoText (List Char)
  | .null => .ok "None".toList
  | .bool b => .ok (boolText b).toList
  | .int n => integerText n
  | .float x => .ok x.text.toList
  | .str s => .ok (Text.quote s.toList)
  | .expr s => .ok (Text.quote s.toList)
  | .bytes content => .ok (Text.quoteBytes content)
  | .foreign thing => .ok thing.quoted.toList
  | v => .error (.unsupported v.typeName)

/-- A value as messages show it. -/
def quoted (v : Value) : Except NoText String :=
  String.ofList <$> layout ⟨quotedLeaf, true⟩ v

/-- A value as it is inserted into a text: strings and expressions are inserted as they are. -/
def display : Value → Except NoText String
  | .str s => .ok s
  | .expr s => .ok s
  | .foreign thing => .ok thing.display
  | v => v.quoted

end Value

end LayerGraph
