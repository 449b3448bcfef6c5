import LayerGraph.Value.Literal

/-! # Writing JSON

    Values on one line in ASCII, with a blank after each comma and colon. What JSON has no form for
    is written as a string: its text as it is inserted into other texts. Keys that are not strings
    are written as the text JSON would give them.
-/

namespace LayerGraph.Json

open Number (Binary64)

/-- Why a value has no JSON text. -/
inductive WriteError where
  /-- A key is neither a string, a number, a truth value nor null. -/
  | badKey
  | noText (cause : NoText)
deriving DecidableEq, Repr

/-- One code unit as an escape. -/
def unitEscape (u : Nat) : List Char := '\\' :: 'u' :: Text.hexadecimal 4 u

/-- One character of a string. Beyond the sixteen-bit code points it is a pair of surrogates. -/
def escapeChar (c : Char) : List Char :=
  if c = '"' then ['\\', '"']
  else if c = '\\' then ['\\', '\\']
  else if c = '\n' then ['\\', 'n']
  else if c = '\r' then ['\\', 'r']
  else if c = '\t' then ['\\', 't']
  else if c = '\x08' then ['\\', 'b']
  else if c = '\x0c' then ['\\', 'f']
  else if 32 ≤ c.toNat ∧ c.toNat < 127 then [c]
  else if c.toNat < 0x10000 then unitEscape c.toNat
  else
    unitEscape (0xD800 + (c.toNat - 0x10000) / 0x400) ++
      unitEscape (0xDC00 + (c.toNat - 0x10000) % 0x400)

/-- A string in its quotes. -/
def stringText (s : String) : List Char := '"' :: s.toList.flatMap escapeChar ++ ['"']

/-- A number; the special values are words. -/
def floatText : Binary64 → String
  | .nan => "NaN"
  | .infinity negative => if negative then "-Infinity" else "Infinity"
  | x => x.text

/-- An integer. -/
def integerText (n : Int) : Except WriteError (List Char) :=
  (LayerGraph.integerText n).mapError .noText

/-- A truth value. -/
def boolText (b : Bool) : String := if b then "true" else "false"

/-- A value that holds no others. -/
def leafText : Value → Except WriteError (List Char)
  | .null => .ok "null".toList
  | .bool b => .ok (boolText b).toList
  | .int n => integerText n
  | .float x => .ok (floatText x).toList
  | .str s => .ok (stringText s)
  | .expr s => .ok (stringText s)
  | v => (v.display.mapError .noText).map stringText

/-- A key as the text of a string. -/
def keyText : Value → Except WriteError String
  | .str s => .ok s
  | .expr s => .ok s
  | .null => .ok "null"
  | .bool b => .ok (boolText b)
  | .int n => String.ofList <$> integerText n
  | .float x => .ok (floatText x)
  | _ => .error .badKey

mutual

/-- The text of a value. -/
def valueText : Value → Except WriteError (List Char)
  | .tuple items => Value.listText <$> itemTexts items
  | .list items => Value.listText <$> itemTexts items
  | .map entries => Value.mapText <$> memberTexts entries
  | v => leafText v

/-- The texts of the items of a list. -/
def itemTexts : List Value → Except WriteError (List (List Char))
  | [] => .ok []
  | item :: rest => do
    let first ← valueText item
    let others ← itemTexts rest
    return first :: others

/-- The texts of the members of an object. -/
def memberTexts : List (Value × Value) → Except WriteError (List (List Char))
  | [] => .ok []
  | (key, value) :: rest => do
    let name ← keyText key
    let text ← valueText value
    let others ← memberTexts rest
    return (stringText name ++ ':' :: ' ' :: text) :: others

end

/-- Writes a value on one line. -/
def write (v : Value) : Except WriteError String := String.ofList <$> valueText v

end LayerGraph.Json
