import LayerGraph.Number.Binary64

/-! # Shortest decimal text

    A binary number is written with the fewest decimal digits that read back as the same number;
    of the texts with that many digits, the one nearest to its value. The search tries one digit,
    then two, and so on, and takes on each grid only the two neighbours of the value: if any point
    of a grid reads back, one of these two does.
-/

namespace LayerGraph.Number

/-- The decimal number `digits * 10 ^ exponent`. -/
structure Decimal where
  digits : Nat
  exponent : Int
deriving DecidableEq, Repr

namespace Decimal

/-- The size nearest to a decimal number. -/
def magnitude? (d : Decimal) : Option Magnitude :=
  if 0 ≤ d.exponent then Magnitude.nearest? (d.digits * Nat.pow 10 d.exponent.toNat) 1
  else Magnitude.nearest? d.digits (Nat.pow 10 (-d.exponent).toNat)

end Decimal

namespace Magnitude

/-- The exponent `k` for which the size is at least `10 ^ (k - 1)` and less than `10 ^ k`. -/
def decimalPoint (m : Magnitude) : Int :=
  if unitsPerOne ≤ m.units then Binary64.digitCount (m.units / unitsPerOne)
  else 1 - Binary64.digitCount ((unitsPerOne + m.units - 1) / m.units - 1)

/-- The size as a quotient of naturals, in steps of `10 ^ exponent`. -/
def onGrid (m : Magnitude) (exponent : Int) : Nat × Nat :=
  if 0 ≤ exponent then (m.units, unitsPerOne * Nat.pow 10 exponent.toNat)
  else (m.units * Nat.pow 10 (-exponent).toNat, unitsPerOne)

/-- The point of a decimal grid that reads back as `m`: the nearer of the two neighbours, and on a
    tie the even one. -/
def readBackOn (m : Magnitude) (exponent : Int) : Option Decimal :=
  let ratio := m.onGrid exponent
  let nearer := roundToEven ratio.1 ratio.2
  let below := ratio.1 / ratio.2
  let farther := if nearer = below then below + 1 else below
  if (Decimal.mk nearer exponent).magnitude? = some m then some ⟨nearer, exponent⟩
  else if (Decimal.mk farther exponent).magnitude? = some m then some ⟨farther, exponent⟩
  else none

/-- The shortest decimal number that reads back as `m`. Seventeen digits always suffice. -/
def shortest (m : Magnitude) : Decimal :=
  match (List.range 17).findSome? fun (n : Nat) => m.readBackOn (m.decimalPoint - (n + 1)) with
  | some d => d
  | none =>
    let exponent := m.decimalPoint - 17
    ⟨roundToEven (m.onGrid exponent).1 (m.onGrid exponent).2, exponent⟩

end Magnitude

/-! ### Layout -/

/-- The digits of a number without the zeros at its end. A number is its digits put behind a
    point, shifted by `point` places. -/
structure Digits where
  digits : List Char
  point : Int

/-- The significant digits of a decimal number. -/
def Decimal.significant (d : Decimal) : Digits :=
  let all := Nat.toDigits 10 d.digits
  let kept := (all.reverse.dropWhile (· == '0')).reverse
  ⟨kept, d.exponent + all.length⟩

/-- An exponent with its sign and at least two digits. -/
def exponentText (e : Int) : List Char :=
  let digits := Nat.toDigits 10 e.natAbs
  (if e < 0 then '-' else '+') :: (if digits.length < 2 then '0' :: digits else digits)

/-- Digits with a point in place when the exponent is from -4 to 15, and with an exponent
    otherwise. A number in place always has a digit after its point. -/
def Digits.text (d : Digits) : List Char :=
  let count : Int := d.digits.length
  if -4 < d.point ∧ d.point ≤ 16 then
    if d.point ≤ 0 then
      ['0', '.'] ++ List.replicate (-d.point).toNat '0' ++ d.digits
    else if count ≤ d.point then
      d.digits ++ List.replicate (d.point - count).toNat '0' ++ ['.', '0']
    else
      d.digits.take d.point.toNat ++ ['.'] ++ d.digits.drop d.point.toNat
  else
    match d.digits with
    | [] => []
    | [single] => single :: 'e' :: exponentText (d.point - 1)
    | first :: rest => first :: '.' :: rest ++ 'e' :: exponentText (d.point - 1)

/-- The text of a size. -/
def Magnitude.text (m : Magnitude) : List Char :=
  if m.significand = 0 then ['0', '.', '0'] else m.shortest.significant.text

/-- The text of a number; the special values are `nan`, `inf` and `-inf`. -/
def Binary64.text : Binary64 → String
  | .nan => "nan"
  | .infinity negative => if negative then "-inf" else "inf"
  | .finite negative magnitude =>
    String.ofList (if negative then '-' :: magnitude.text else magnitude.text)

end LayerGraph.Number
