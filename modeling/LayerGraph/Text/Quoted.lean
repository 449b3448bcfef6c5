import LayerGraph.Text.Printable

/-! # Quoted text

    A text as a literal of the generated language. The quote is an apostrophe, unless the text has
    apostrophes and no double quotes. Backslashes and the chosen quote are escaped, and so is every
    character without a printed form, by the shortest of three hexadecimal escapes.
-/

namespace LayerGraph.Text

/-- A number in hexadecimal, filled up with zeros from the left. -/
def hexadecimal (width n : Nat) : List Char :=
  let digits := Nat.toDigits 16 n
  List.replicate (width - digits.length) '0' ++ digits

/-- The quote for a text. -/
def quoteFor (cs : List Char) : Char :=
  if cs.contains '\'' && !cs.contains '"' then '"' else '\''

/-- One character inside a literal with the given quote. -/
def escapeChar (quote c : Char) : List Char :=
  if c = quote ∨ c = '\\' then ['\\', c]
  else if c = '\t' then ['\\', 't']
  else if c = '\n' then ['\\', 'n']
  else if c = '\r' then ['\\', 'r']
  else if isPrintable c then [c]
  else if c.toNat < 0x100 then '\\' :: 'x' :: hexadecimal 2 c.toNat
  else if c.toNat < 0x10000 then '\\' :: 'u' :: hexadecimal 4 c.toNat
  else '\\' :: 'U' :: hexadecimal 8 c.toNat

/-- A text as a literal. -/
def quote (cs : List Char) : List Char :=
  quoteFor cs :: cs.flatMap (escapeChar (quoteFor cs)) ++ [quoteFor cs]

/-- A string as a literal. -/
def quoted (s : String) : String := String.ofList (quote s.toList)

/-- One byte inside a literal with the given quote. Only ASCII is written as itself. -/
def escapeByte (mark : Char) (b : UInt8) : List Char :=
  let c := Char.ofNat b.toNat
  if b < 128 then escapeChar mark c else '\\' :: 'x' :: hexadecimal 2 b.toNat

/-- Bytes as a literal. -/
def quoteBytes (bs : List UInt8) : List Char :=
  let mark := quoteFor (bs.map fun b => Char.ofNat b.toNat)
  'b' :: mark :: bs.flatMap (escapeByte mark) ++ [mark]

end LayerGraph.Text
