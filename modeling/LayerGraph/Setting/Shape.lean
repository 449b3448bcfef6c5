import LayerGraph.Mismatch
import LayerGraph.Number.Reading
import LayerGraph.Text.Identifier
import LayerGraph.Text.Lines
import LayerGraph.Value

/-! # Shapes of settings

    A shape says which values a setting takes and how they are normalised: numbers given as text
    become numbers, and lists become tuples. Integers are taken only as integers. A value that does
    not fit is answered with all its mismatches, in the order in which they are found; there is
    always at least one.
-/

namespace LayerGraph

open Number (Binary64)

/-- A bound on a number. -/
inductive Bound where
  | above (limit : Nat)
  | atLeast (limit : Nat)
  | atMost (limit : Nat)
  | below (limit : Nat)
deriving DecidableEq, Repr

namespace Bound

/-- The mismatch of a number outside the bound. -/
def mismatch : Bound → Mismatch
  | .above limit => .notGreater limit
  | .atLeast limit => .notAtLeast limit
  | .atMost limit => .notAtMost limit
  | .below limit => .notLess limit

/-- Whether an integer is within the bound. -/
def admitsInt (n : Int) : Bound → Bool
  | .above limit => decide (n > limit)
  | .atLeast limit => decide (n ≥ limit)
  | .atMost limit => decide (n ≤ limit)
  | .below limit => decide (n < limit)

/-- A small limit as a floating point number. -/
def limitFloat (limit : Nat) : Binary64 := Binary64.ofRatio false limit 1

/-- Whether a floating point number is within the bound. NaN is within none. -/
def admitsFloat (x : Binary64) : Bound → Bool
  | .above limit => (limitFloat limit).lt x
  | .atLeast limit => (limitFloat limit).le x
  | .atMost limit => x.le (limitFloat limit)
  | .below limit => x.lt (limitFloat limit)

end Bound

/-- The values that a setting takes. -/
inductive Shape where
  /-- An integer; truth values and numbers with a fraction are none. -/
  | integer (bounds : List Bound)
  | number (bounds : List Bound)
  | boolean
  | text
  /-- A text that is not empty. -/
  | filledText
  /-- The name of a variable. -/
  | name
  /-- Names with dots between them. -/
  | dottedName
  | choice (options : List String)
  /-- Exactly two items. -/
  | pair (item : Shape)
  /-- Any number of items. -/
  | sequence (item : Shape)
  | optional (inner : Shape)
  /-- The first shape that fits. -/
  | either (first second : Shape)
deriving Repr

/-- At least one mismatch, in order. -/
structure Mismatches where
  first : Mismatch
  others : List Mismatch
deriving DecidableEq, Repr

namespace Mismatches

/-- A single mismatch. -/
def one (m : Mismatch) : Mismatches := ⟨m, []⟩

/-- The mismatches as a list. -/
def toList (ms : Mismatches) : List Mismatch := ms.first :: ms.others

/-- The mismatches of two checks, one after the other. -/
def append (ms ns : Mismatches) : Mismatches := ⟨ms.first, ms.others ++ ns.toList⟩

end Mismatches

namespace Shape

/-! ### Leaves -/

/-- The text of a value that is taken as text. Bytes are, if they are text in UTF-8. -/
def textOf : Value → Except Mismatch String
  | .str s => .ok s
  | .expr s => .ok s
  | .bytes content =>
    match String.fromUTF8? ⟨content.toArray⟩ with
    | some s => .ok s
    | none => .error .notStringBytes
  | _ => .error .notString

/-- The first bound that does not admit an integer is its mismatch. -/
def checkInt (bounds : List Bound) (n : Int) : Except Mismatch Value :=
  match bounds.find? (fun bound => !bound.admitsInt n) with
  | some bound => .error bound.mismatch
  | none => .ok (.int n)

/-- An integer within bounds. -/
def integerOf (bounds : List Bound) : Value → Except Mismatch Value
  | .int n => checkInt bounds n
  | _ => .error .notInteger

/-- The number of a value that is taken as a number. -/
def floatOf : Value → Except Mismatch Binary64
  | .float x => .ok x
  | .bool b => .ok (if b then Binary64.ofRatio false 1 1 else .zero)
  | .int n => (Binary64.ofInt? n).elim (.error .notNumber) .ok
  | .str s => (Number.looseFloat? s).elim (.error .notNumberText) .ok
  | .expr s => (Number.looseFloat? s).elim (.error .notNumberText) .ok
  | .bytes content =>
    ((String.fromUTF8? ⟨content.toArray⟩).bind Number.looseFloat?).elim (.error .notNumberText) .ok
  | _ => .error .notNumber

/-- A number within bounds. The first bound that does not admit it is its mismatch. -/
def numberOf (bounds : List Bound) (v : Value) : Except Mismatch Value := do
  let x ← floatOf v
  match bounds.find? (fun bound => !bound.admitsFloat x) with
  | some bound => .error bound.mismatch
  | none => .ok (.float x)

/-- The words for true. -/
def trueWords : List String := ["1", "on", "t", "true", "y", "yes"]

/-- The words for false. -/
def falseWords : List String := ["0", "off", "f", "false", "n", "no"]

/-- The truth value of a word, in any case. -/
def wordTruth (s : String) : Except Mismatch Value :=
  let word := s.map Char.toLower
  if trueWords.contains word then .ok (.bool true)
  else if falseWords.contains word then .ok (.bool false)
  else .error .notBooleanText

/-- The truth value of an integer: one and zero have one. -/
def integerTruth (n : Int) : Except Mismatch Value :=
  if n = 1 then .ok (.bool true) else if n = 0 then .ok (.bool false) else .error .notBooleanText

/-- The least number that is beyond the integers of 64 bits with a sign. -/
def wordBound : Int := 9223372036854775808

/-- A truth value. Integers beyond 64 bits, and numbers that are not whole, do not even look like
    one. -/
def booleanOf : Value → Except Mismatch Value
  | .bool b => .ok (.bool b)
  | .str s => wordTruth s
  | .expr s => wordTruth s
  | .bytes content =>
    ((String.fromUTF8? ⟨content.toArray⟩).map wordTruth).getD (.error .notBooleanText)
  | .int n => if -wordBound ≤ n ∧ n < wordBound then integerTruth n else .error .notBoolean
  | .float x =>
    match x.integer? with
    | some n => if -wordBound < n ∧ n < wordBound then integerTruth n else .error .notBoolean
    | none => .error .notBoolean
  | _ => .error .notBoolean

/-- A name. -/
def nameOf (v : Value) : Except Mismatch Value := do
  let s ← textOf v
  if Text.isName s then .ok (.str s) else .error (.notName s)

/-- The parts of a text between its dots. -/
def dottedParts (s : String) : List String := (Text.pieces '.' s.toList).map String.ofList

/-- Names with dots between them. The first part that is no name is to blame. -/
def dottedNameOf (v : Value) : Except Mismatch Value := do
  let s ← textOf v
  match (dottedParts s).find? (fun part => !Text.isName part) with
  | some part => .error (.notName part)
  | none => .ok (.str s)

/-- A text that is not empty. -/
def filledTextOf (v : Value) : Except Mismatch Value := do
  let s ← textOf v
  if s.isEmpty then .error .tooShort else .ok (.str s)

/-- One of the options. -/
def choiceOf (options : List String) (v : Value) : Except Mismatch Value :=
  match v.text? with
  | some s => if options.contains s then .ok (.str s) else .error (.notChoice options)
  | none => .error (.notChoice options)

/-- The items of a sequence. A set is taken as one, in the order in which its items are met. -/
def itemsOf : Value → Except Mismatch (List Value)
  | .tuple items => .ok items
  | .list items => .ok items
  | .set items => .ok items
  | _ => .error .notTuple

/-! ### Sequences -/

/-- The items checked one by one. The mismatches of all of them are collected. -/
def checkItems (check : Value → Except Mismatches Value) :
    List Value → Except Mismatches (List Value)
  | [] => .ok []
  | item :: rest =>
    match check item, checkItems check rest with
    | .ok first, .ok others => .ok (first :: others)
    | .ok _, .error faults => .error faults
    | .error faults, .ok _ => .error faults
    | .error faults, .error more => .error (faults.append more)

/-- Two items. Each that is not there is a mismatch of its own; one too many is the only one. -/
def checkPair (check : Value → Except Mismatches Value) (items : List Value) :
    Except Mismatches (List Value) :=
  match items with
  | [] => .error ⟨.missing, [.missing]⟩
  | [only] =>
    match check only with
    | .ok _ => .error (.one .missing)
    | .error faults => .error (faults.append (.one .missing))
  | [_, _] => checkItems check items
  | _ => .error (.one (.tooManyItems 2 items.length))

/-- Passes a mismatch on as the only one. -/
def only (result : Except Mismatch Value) : Except Mismatches Value :=
  result.mapError Mismatches.one

/-! ### All shapes -/

/-- The normalised value, or what is wrong with the given one. -/
def check : Shape → Value → Except Mismatches Value
  | .integer bounds, v => only (integerOf bounds v)
  | .number bounds, v => only (numberOf bounds v)
  | .boolean, v => only (booleanOf v)
  | .text, v => only ((textOf v).map .str)
  | .filledText, v => only (filledTextOf v)
  | .name, v => only (nameOf v)
  | .dottedName, v => only (dottedNameOf v)
  | .choice options, v => only (choiceOf options v)
  | .pair item, v => do
    let items ← (itemsOf v).mapError Mismatches.one
    .tuple <$> checkPair item.check items
  | .sequence item, v => do
    let items ← (itemsOf v).mapError Mismatches.one
    .tuple <$> checkItems item.check items
  | .optional _, .null => .ok .null
  | .optional inner, v => inner.check v
  | .either first second, v =>
    match first.check v with
    | .ok w => .ok w
    | .error faults =>
      match second.check v with
      | .ok w => .ok w
      | .error more => .error (faults.append more)

end Shape

end LayerGraph
