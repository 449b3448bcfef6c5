import LayerGraph.Json.Reader
import LayerGraph.Text.Utf8

/-! # JSON in bytes

    A document comes in one of the Unicode encodings. Which one it is, a mark in front of it says,
    which is no part of the text, or else the zeros among its first bytes, since a document begins
    with two characters of ASCII.
-/

namespace LayerGraph.Json

/-- How code points are written as bytes. -/
inductive Encoding where
  | utf8
  /-- In units of two bytes; the higher byte may come first. -/
  | utf16 (highFirst : Bool)
  /-- In units of four bytes. -/
  | utf32 (highFirst : Bool)
deriving DecidableEq, Repr

namespace Encoding

/-- The marks that say which encoding follows. -/
def marks : List (List UInt8 × Encoding) :=
  [([0x00, 0x00, 0xFE, 0xFF], utf32 true), ([0xFF, 0xFE, 0x00, 0x00], utf32 false),
   ([0xFE, 0xFF], utf16 true), ([0xFF, 0xFE], utf16 false), ([0xEF, 0xBB, 0xBF], utf8)]

/-- The encoding that the zeros among the first bytes tell. -/
def guess : List UInt8 → Encoding
  | a :: b :: c :: d :: _ =>
    if a = 0 then if b = 0 then utf32 true else utf16 true
    else if b = 0 then if c = 0 ∧ d = 0 then utf32 false else utf16 false
    else utf8
  | [a, b] => if a = 0 then utf16 true else if b = 0 then utf16 false else utf8
  | _ => utf8

/-- The encoding of bytes, and the bytes without a mark in front. -/
def detect (bytes : List UInt8) : Encoding × List UInt8 :=
  match marks.find? fun mark => mark.1.isPrefixOf bytes with
  | some (mark, encoding) => (encoding, bytes.drop mark.length)
  | none => (guess bytes, bytes)

end Encoding

/-! ### Units -/

/-- Units of two bytes, unless a byte is left over. -/
def units16? (highFirst : Bool) : List UInt8 → Option (List Nat)
  | [] => some []
  | [_] => none
  | a :: b :: rest =>
    (units16? highFirst rest).map
      ((if highFirst then a.toNat * 256 + b.toNat else b.toNat * 256 + a.toNat) :: ·)

/-- Units of four bytes, unless bytes are left over. -/
def units32? (highFirst : Bool) : List UInt8 → Option (List Nat)
  | [] => some []
  | a :: b :: c :: d :: rest =>
    let value (a b c d : UInt8) := ((a.toNat * 256 + b.toNat) * 256 + c.toNat) * 256 + d.toNat
    (units32? highFirst rest).map ((if highFirst then value a b c d else value d c b a) :: ·)
  | _ => none

/-- Code points from units of two bytes: surrogates that follow each other become one. -/
def joinPairs : List Nat → List Nat
  | high :: low :: rest =>
    if isHighSurrogate high && isLowSurrogate low then
      (pairChar high low).toNat :: joinPairs rest
    else high :: joinPairs (low :: rest)
  | units => units

/-! ### Decoding -/

/-- Why bytes have no text. -/
inductive DecodingFault where
  | broken
  /-- A surrogate stands there without its partner. -/
  | loneSurrogate
deriving DecidableEq, Repr

/-- The characters with code points. -/
def charsOf (points : List Nat) : Except DecodingFault (List Char) :=
  if points.any fun n => decide (0x10FFFF < n) then .error .broken
  else if points.any fun n => isHighSurrogate n || isLowSurrogate n then .error .loneSurrogate
  else .ok (points.map Char.ofNat)

/-- The text of bytes in UTF-8. Bytes that are no text may still be the code points of one with
    surrogates in it. -/
def decodeUtf8 (bytes : List UInt8) : Except DecodingFault (List Char) :=
  match String.fromUTF8? ⟨bytes.toArray⟩ with
  | some text => .ok text.toList
  | none =>
    if (Text.points true bytes).all (·.isSome) then .error .loneSurrogate else .error .broken

/-- The text of the bytes of a document. -/
def decode (bytes : List UInt8) : Except DecodingFault (List Char) :=
  match Encoding.detect bytes with
  | (.utf8, content) => decodeUtf8 content
  | (.utf16 highFirst, content) =>
    match units16? highFirst content with
    | some units => charsOf (joinPairs units)
    | none => .error .broken
  | (.utf32 highFirst, content) =>
    match units32? highFirst content with
    | some points => charsOf points
    | none => .error .broken

end LayerGraph.Json
