/-! # Bytes in text

    Bytes written as text, six bits in each character. Characters of no meaning are skipped, so a
    text may be broken into lines. An equals sign that completes a group of four ends the text; one
    that comes too early counts as nothing.
-/

namespace LayerGraph.Text

/-- The six bits of a character. -/
def sixBits? (c : Char) : Option Nat :=
  if 'A' ≤ c ∧ c ≤ 'Z' then some (c.toNat - 65)
  else if 'a' ≤ c ∧ c ≤ 'z' then some (c.toNat - 71)
  else if '0' ≤ c ∧ c ≤ '9' then some (c.toNat + 4)
  else if c = '+' then some 62
  else if c = '/' then some 63
  else none

/-- The bytes of a text, read within a group of four: `place` characters of the group came before,
    `left` is what they leave of an unfinished byte, and `pads` counts the equals signs since the
    last of them. -/
def base64From (place left pads : Nat) : List Char → Option (List UInt8)
  | [] => if place = 0 then some [] else none
  | c :: cs =>
    if c = '=' then
      if 2 ≤ place then
        if 4 ≤ place + (pads + 1) then some [] else base64From place left (pads + 1) cs
      else base64From place left pads cs
    else
      match sixBits? c with
      | none => base64From place left pads cs
      | some bits =>
        match place with
        | 0 => base64From 1 bits 0 cs
        | 1 => (base64From 2 (bits % 16) 0 cs).map (UInt8.ofNat (left * 4 + bits / 16) :: ·)
        | 2 => (base64From 3 (bits % 4) 0 cs).map (UInt8.ofNat (left * 16 + bits / 4) :: ·)
        | _ => (base64From 0 0 0 cs).map (UInt8.ofNat (left * 64 + bits) :: ·)

/-- The bytes that a text stands for, unless it ends within a group. -/
def base64? (cs : List Char) : Option (List UInt8) := base64From 0 0 0 cs

end LayerGraph.Text
