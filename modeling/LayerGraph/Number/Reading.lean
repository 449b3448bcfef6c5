import LayerGraph.Number.Binary64
import LayerGraph.Text.Blank
import LayerGraph.Text.Digit

/-! # Numbers in text

    Numbers as people type them. A floating point number has digits on at least one side of its
    point and may have an exponent; `inf`, `infinity` and `nan` are read in any case. An integer
    may be written in the decimal digits of any script. Blanks may stand around a number. In an
    integer a single underscore may stand between two digits; a loosely written floating point
    number may have single underscores between any of its characters, but then no blanks.
-/

namespace LayerGraph.Number

/-- Whether a character is one of the ten ASCII digits. -/
def isDigit (c : Char) : Bool := decide ('0' ≤ c) && decide (c ≤ '9')

/-- The value of a row of ASCII digits. -/
def digitsValue (ds : List Char) : Nat := ds.foldl (fun n d => 10 * n + (d.toNat - 48)) 0

/-- A sign, and what follows it. No sign is a plus. -/
def splitSign : List Char → Bool × List Char
  | '-' :: cs => (true, cs)
  | '+' :: cs => (false, cs)
  | cs => (false, cs)

/-- Removes the underscores, if each stands between two characters of a kind. The flag tells whether
    one of that kind stands before. -/
def dropUnderscores (ofKind : Char → Bool) : Bool → List Char → Option (List Char)
  | _, [] => some []
  | afterKind, '_' :: c :: cs =>
    if afterKind && ofKind c then (dropUnderscores ofKind true cs).map (c :: ·) else none
  | _, '_' :: [] => none
  | _, c :: cs => (dropUnderscores ofKind (ofKind c) cs).map (c :: ·)

/-- The exponent at the end of a number: nothing, or a mark with a sign and digits. -/
def exponent? : List Char → Option Int
  | [] => some 0
  | c :: cs =>
    let signed := splitSign cs
    if (c = 'e' ∨ c = 'E') ∧ signed.2 ≠ [] ∧ signed.2.all isDigit then
      let size : Int := digitsValue signed.2
      some (if signed.1 then -size else size)
    else none

/-- The digits behind a point, and what follows. -/
def fraction : List Char → List Char × List Char
  | '.' :: cs => (cs.takeWhile isDigit, cs.dropWhile isDigit)
  | cs => ([], cs)

/-- A number without sign, blanks and underscores. -/
def unsignedFloat? (negative : Bool) (cs : List Char) : Option Binary64 :=
  let word := cs.map Char.toLower
  if word = "inf".toList ∨ word = "infinity".toList then some (.infinity negative)
  else if word = "nan".toList then some .nan
  else
    let whole := cs.takeWhile isDigit
    let rest := fraction (cs.dropWhile isDigit)
    if whole.isEmpty && rest.1.isEmpty then none
    else (exponent? rest.2).map fun exponent =>
      Binary64.ofDecimal negative (digitsValue (whole ++ rest.1)) (exponent - rest.1.length)

/-- A number without blanks and underscores. -/
def plainFloat? (cs : List Char) : Option Binary64 :=
  let signed := splitSign cs
  unsignedFloat? signed.1 signed.2

/-- The floating point number that a text is, with blanks around it. -/
def float? (text : String) : Option Binary64 :=
  plainFloat? (Text.trimWhile Text.isSpace text.toList)

/-- The floating point number that a text loosely is: blanks may stand around it, or underscores
    inside it. -/
def looseFloat? (text : String) : Option Binary64 :=
  match float? text with
  | some x => some x
  | none => (dropUnderscores (· != '_') false text.toList).bind plainFloat?

/-- The integer that a text is, in the digits of any script. -/
def integer? (text : String) : Option Int := do
  let signed := splitSign (Text.trim text.toList)
  let digits ← dropUnderscores (fun c => (Text.digitValue? c).isSome) false signed.2
  let values ← digits.mapM Text.digitValue?
  if values.isEmpty then none
  else
    let size : Nat := values.foldl (fun n d => 10 * n + d) 0
    some (if signed.1 then -size else size)

/-- The letter that may stand behind a zero to name a base. -/
def baseLetter (base : Nat) : Option Char :=
  match base with
  | 2 => some 'b'
  | 8 => some 'o'
  | 16 => some 'x'
  | _ => none

/-- The characters behind the name of a base, if it stands here. -/
def dropBase (base : Nat) : List Char → List Char
  | '0' :: c :: cs => if some c.toLower = baseLetter base then cs else '0' :: c :: cs
  | cs => cs

/-- The value of a digit to a base of at most sixteen. -/
def digitIn? (base : Nat) (c : Char) : Option Nat :=
  let value? :=
    if 'a' ≤ c.toLower ∧ c.toLower ≤ 'f' then some (c.toLower.toNat - 87) else Text.digitValue? c
  value?.filter (· < base)

/-- The integer that a text is to a base. The name of the base may stand before the digits. -/
def integerIn? (base : Nat) (cs : List Char) : Option Int := do
  let signed := splitSign (Text.trim cs)
  let values ← (dropBase base signed.2).mapM (digitIn? base)
  if values.isEmpty then none
  else
    let size : Nat := values.foldl (fun n d => base * n + d) 0
    some (if signed.1 then -size else size)

end LayerGraph.Number
