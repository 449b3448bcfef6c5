/-! # UTF-8

    The code points that bytes stand for, also where the bytes are no text. What cannot be read is
    cut into the longest runs of bytes with which a code point could have begun, and each run counts
    as one fault. Surrogates have code points but are no characters; whether their bytes are read or
    are faults is up to the caller.
-/

namespace LayerGraph.Text

/-- How many bytes follow a first one, what they are added to, and the least and the greatest that
    may come next. -/
structure Lead where
  tails : Nat
  value : Nat
  least : UInt8 := 0x80
  greatest : UInt8 := 0xBF

/-- What a first byte begins, if it begins anything that is longer. -/
def leadOf? (surrogates : Bool) (a : UInt8) : Option Lead :=
  if 0xC2 ≤ a ∧ a ≤ 0xDF then some { tails := 1, value := a.toNat % 32 }
  else if a = 0xE0 then some { tails := 2, value := 0, least := 0xA0 }
  else if a = 0xED ∧ surrogates = false then some { tails := 2, value := 13, greatest := 0x9F }
  else if 0xE1 ≤ a ∧ a ≤ 0xEF then some { tails := 2, value := a.toNat % 16 }
  else if a = 0xF0 then some { tails := 3, value := 0, least := 0x90 }
  else if 0xF1 ≤ a ∧ a ≤ 0xF3 then some { tails := 3, value := a.toNat % 8 }
  else if a = 0xF4 then some { tails := 3, value := 4, greatest := 0x8F }
  else none

/-- The code point that tails complete, if they do, and the bytes after them. -/
def readTails : Nat → UInt8 → UInt8 → Nat → List UInt8 → Option Nat × List UInt8
  | 0, _, _, value, rest => (some value, rest)
  | _ + 1, _, _, _, [] => (none, [])
  | tails + 1, least, greatest, value, b :: rest =>
    if least ≤ b ∧ b ≤ greatest then
      readTails tails 0x80 0xBF (value * 64 + b.toNat % 64) rest
    else (none, b :: rest)

/-- The code points of bytes, with nothing for each fault. The number bounds the steps. -/
def pointsWithin (surrogates : Bool) : Nat → List UInt8 → List (Option Nat)
  | 0, _ => []
  | _ + 1, [] => []
  | fuel + 1, a :: rest =>
    if a < 0x80 then some a.toNat :: pointsWithin surrogates fuel rest
    else
      match leadOf? surrogates a with
      | none => none :: pointsWithin surrogates fuel rest
      | some lead =>
        let read := readTails lead.tails lead.least lead.greatest lead.value rest
        read.1 :: pointsWithin surrogates fuel read.2

/-- The code points of bytes, with nothing for each fault. -/
def points (surrogates : Bool) (bytes : List UInt8) : List (Option Nat) :=
  pointsWithin surrogates bytes.length bytes

/-- The text of bytes, in which the replacement character stands for each fault. -/
def decodeReplacing (bytes : List UInt8) : List Char :=
  (points false bytes).map fun point => Char.ofNat (point.getD 0xFFFD)

end LayerGraph.Text
