/-! # Binary floating point

    The 64-bit binary numbers, kept as exact values: a sign and a count of units of `2 ^ (-1074)`.
    Every number has one canonical form, so two finite numbers are equal exactly when their forms
    are, but for the two zeros. Rounding takes an exact quotient to the nearest number, and a tie
    to the one with the even significand.
-/

namespace LayerGraph.Number

/-! ### Magnitudes -/

/-- A finite size `significand * 2 ^ exponent`, counted in units of `2 ^ (-1074)`. -/
structure Magnitude where
  significand : Nat
  exponent : Nat
  /-- A significand has at most 53 bits. -/
  significand_lt : significand < Nat.pow 2 53
  /-- Only the smallest sizes have fewer. -/
  exponent_eq_or_le : exponent = 0 ∨ Nat.pow 2 52 ≤ significand
  exponent_le : exponent ≤ 2045
deriving DecidableEq

namespace Magnitude

/-- The number of units of the last place of the smallest sizes in `1`. -/
def unitsPerOne : Nat := Nat.pow 2 1074

/-- The size in units. -/
def units (m : Magnitude) : Nat := m.significand * Nat.pow 2 m.exponent

/-- The size with these parts, if they are in canonical form. -/
def ofParts? (significand exponent : Nat) : Option Magnitude :=
  if h : significand < Nat.pow 2 53 ∧ (exponent = 0 ∨ Nat.pow 2 52 ≤ significand) ∧
      exponent ≤ 2045 then
    some ⟨significand, exponent, h.1, h.2.1, h.2.2⟩
  else none

/-- The magnitude of zero. -/
def zero : Magnitude := ⟨0, 0, by decide, .inl rfl, by decide⟩

end Magnitude

/-- The integer nearest to a quotient; of two that are equally near, the even one. -/
def roundToEven (numerator denominator : Nat) : Nat :=
  let quotient := numerator / denominator
  let rest := numerator % denominator
  if 2 * rest < denominator then quotient
  else if denominator < 2 * rest then quotient + 1
  else if quotient % 2 = 0 then quotient else quotient + 1

/-- The size nearest to a quotient, or nothing if the quotient is beyond the largest size. -/
def Magnitude.nearest? (numerator denominator : Nat) : Option Magnitude :=
  let scaled := numerator * unitsPerOne
  let exponent := (scaled / denominator).log2 + 1 - 53
  let significand := roundToEven scaled (denominator * Nat.pow 2 exponent)
  if significand = Nat.pow 2 53 then ofParts? (Nat.pow 2 52) (exponent + 1)
  else ofParts? significand exponent

/-! ### Numbers -/

/-- A 64-bit binary number. The two zeros differ in their sign. -/
inductive Binary64 where
  | nan
  | infinity (negative : Bool)
  | finite (negative : Bool) (magnitude : Magnitude)
deriving DecidableEq

namespace Binary64

/-- Zero without a sign. -/
def zero : Binary64 := .finite false .zero

/-- The number nearest to a signed quotient. -/
def ofRatio (negative : Bool) (numerator denominator : Nat) : Binary64 :=
  match Magnitude.nearest? numerator denominator with
  | some magnitude => .finite negative magnitude
  | none => .infinity negative

/-- The number of decimal digits of a positive number; zero has none. -/
def digitCount (n : Nat) : Nat := if n = 0 then 0 else (Nat.toDigits 10 n).length

/-- The number nearest to `digits * 10 ^ exponent`. Exponents far outside the range of the
    numbers are decided without computing the power. -/
def ofDecimal (negative : Bool) (digits : Nat) (exponent : Int) : Binary64 :=
  if digits = 0 then .finite negative .zero
  else if 310 < exponent + digitCount digits then .infinity negative
  else if exponent + digitCount digits < -330 then .finite negative .zero
  else if 0 ≤ exponent then ofRatio negative (digits * Nat.pow 10 exponent.toNat) 1
  else ofRatio negative digits (Nat.pow 10 (-exponent).toNat)

/-- The number nearest to an integer, unless the integer is beyond the largest number. -/
def ofInt? (n : Int) : Option Binary64 :=
  (Magnitude.nearest? n.natAbs 1).map (.finite (n < 0))

/-- The signed number of units of a finite number. -/
def units? : Binary64 → Option Int
  | .finite negative magnitude => some (if negative then -magnitude.units else magnitude.units)
  | _ => none

/-! ### Order -/

/-- Strictly less. Nothing is less or greater than NaN, and the zeros are equal. -/
def lt : Binary64 → Binary64 → Bool
  | .nan, _ => false
  | _, .nan => false
  | .infinity s, .infinity t => s && !t
  | .infinity s, .finite .. => s
  | .finite .., .infinity t => !t
  | .finite s m, .finite t n =>
    decide ((if s then -(m.units : Int) else m.units) < (if t then -(n.units : Int) else n.units))

/-- Numeric equality: NaN equals nothing, and the zeros are equal. -/
def eq : Binary64 → Binary64 → Bool
  | .nan, _ => false
  | _, .nan => false
  | .infinity s, .infinity t => s == t
  | .finite s m, .finite t n =>
    decide ((if s then -(m.units : Int) else m.units) = (if t then -(n.units : Int) else n.units))
  | _, _ => false

/-- At most. -/
def le (x y : Binary64) : Bool := lt x y || eq x y

/-- The integer that a number is, if it is one. -/
def integer? (x : Binary64) : Option Int :=
  x.units?.bind fun units =>
    if units % Magnitude.unitsPerOne = 0 then some (units / Magnitude.unitsPerOne) else none

/-! ### Arithmetic on sizes -/

/-- The product with a natural number, rounded. -/
def scale (x : Binary64) (factor : Binary64) : Binary64 :=
  match x, factor with
  | .nan, _ => .nan
  | _, .nan => .nan
  | .finite s m, .finite t n =>
    ofRatio (s != t) (m.units * n.units) (Magnitude.unitsPerOne * Magnitude.unitsPerOne)
  | .infinity s, .infinity t => .infinity (s != t)
  | .infinity s, .finite t n => if n.significand = 0 then .nan else .infinity (s != t)
  | .finite s m, .infinity t => if m.significand = 0 then .nan else .infinity (s != t)

/-- The rounded sum. Zeros of different sign sum to the positive zero. -/
def add (x y : Binary64) : Binary64 :=
  match x, y with
  | .nan, _ => .nan
  | _, .nan => .nan
  | .infinity s, .infinity t => if s = t then .infinity s else .nan
  | .infinity s, .finite .. => .infinity s
  | .finite .., .infinity t => .infinity t
  | .finite s m, .finite t n =>
    let sum : Int :=
      (if s then -(m.units : Int) else m.units) + (if t then -(n.units : Int) else n.units)
    ofRatio (if sum = 0 then s && t else decide (sum < 0)) sum.natAbs Magnitude.unitsPerOne

/-- The number with the other sign. -/
def neg : Binary64 → Binary64
  | .nan => .nan
  | .infinity s => .infinity !s
  | .finite s m => .finite (!s) m

end Binary64

end LayerGraph.Number
