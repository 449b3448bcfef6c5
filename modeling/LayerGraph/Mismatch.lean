import LayerGraph.Text.Quoted

/-! # Mismatches

    The ways in which a value can fail to have an expected shape, and the words for each. They are
    shared by settings, graph documents and requests.
-/

namespace LayerGraph

/-- What is wrong with a value. -/
inductive Mismatch where
  | notInteger
  | notString
  /-- Bytes given for a text are none in UTF-8. -/
  | notStringBytes
  | notNumber
  | notNumberText
  | notBoolean
  | notBooleanText
  | notTuple
  | notMapping
  | notLayer
  /-- A request body is no object. -/
  | notObject
  | notGreater (bound : Nat)
  | notAtLeast (bound : Nat)
  | notAtMost (bound : Nat)
  | notLess (bound : Nat)
  /-- A text is none of the choices. -/
  | notChoice (choices : List String)
  | tooShort
  | tooManyItems (limit : Nat) (given : Nat)
  | missing
  | keyNotString
  /-- A text does not name a variable. -/
  | notName (text : String)
deriving DecidableEq, Repr

namespace Mismatch

/-- Alternatives in a sentence: commas, and a word before the last. -/
def alternatives : List String → String
  | [] => ""
  | [only] => only
  | [first, last] => first ++ " or " ++ last
  | first :: rest => first ++ ", " ++ alternatives rest

/-- The words for a mismatch. -/
def text : Mismatch → String
  | .notInteger => "Input should be a valid integer"
  | .notString => "Input should be a valid string"
  | .notStringBytes =>
    "Input should be a valid string, unable to parse raw data as a unicode string"
  | .notNumber => "Input should be a valid number"
  | .notNumberText => "Input should be a valid number, unable to parse string as a number"
  | .notBoolean => "Input should be a valid boolean"
  | .notBooleanText => "Input should be a valid boolean, unable to interpret input"
  | .notTuple => "Input should be a valid tuple"
  | .notMapping => "Input should be a valid dictionary"
  | .notLayer => "Input should be a valid dictionary or instance of Layer"
  | .notObject => "Input should be a valid dictionary or object to extract fields from"
  | .notGreater bound => s!"Input should be greater than {bound}"
  | .notAtLeast bound => s!"Input should be greater than or equal to {bound}"
  | .notAtMost bound => s!"Input should be less than or equal to {bound}"
  | .notLess bound => s!"Input should be less than {bound}"
  | .notChoice choices => "Input should be " ++ alternatives (choices.map fun c => "'" ++ c ++ "'")
  | .tooShort => "String should have at least 1 character"
  | .tooManyItems limit given =>
    s!"Tuple should have at most {limit} items after validation, not {given}"
  | .missing => "Field required"
  | .keyNotString => "Keys should be strings"
  | .notName name => s!"Value error, {Text.quoted name} is not a valid Python identifier"

end Mismatch

end LayerGraph
