import LayerGraph.Number.Reading
import LayerGraph.Text.Base64
import LayerGraph.Text.Case
import LayerGraph.Value.Slot
import LayerGraph.Yaml.Moment
import LayerGraph.Yaml.Node

/-! # Reading YAML

    Documents as values. Each node becomes a value of the type that its tag names, and a node whose
    form does not suit its tag is refused. In a mapping a key may repeat (the last value counts, at
    the first place); the entries of mappings that it takes in come before its own. Of several
    faults the least deep is reported.
-/

namespace LayerGraph.Yaml

open Number (Binary64)

/-- Fails for a scalar. -/
def scalarFault {α : Type} (fault : ScalarFault) : Except Error α := .error (.scalar fault)

/-! ### Numbers -/

/-- Removes underscores. -/
def withoutUnderscores (text : String) : List Char := text.toList.filter (· != '_')

/-- The integer that a text is to a base. -/
def integerTo (base : Nat) (cs : List Char) : Except Error Int :=
  if base = 10 ∧ integerDigitLimit < cs.length then scalarFault .integerTooLong
  else
    match Number.integerIn? base cs with
    | some n => .ok n
    | none => scalarFault (.notInteger (String.ofList cs) base)

/-- An integer without its sign. A zero in front makes it octal, unless a letter says otherwise. -/
def unsignedInteger (cs : List Char) : Except Error Int :=
  match cs with
  | [] => scalarFault .emptyNumber
  | ['0'] => .ok 0
  | '0' :: 'b' :: digits => integerTo 2 digits
  | '0' :: 'x' :: digits => integerTo 16 digits
  | '0' :: _ => integerTo 8 cs
  | _ =>
    if cs.contains ':' then do
      let places ← (Text.pieces ':' cs).mapM (integerTo 10)
      return places.foldl (fun sum place => 60 * sum + place) 0
    else integerTo 10 cs

/-- The integer of a scalar. -/
def integerOf (text : String) : Except Error Value := do
  let (negative, unsigned) := Number.splitSign (withoutUnderscores text)
  let size ← unsignedInteger unsigned
  return .int (if negative then -size else size)

/-- The number that a text is, in the digits of any script. -/
def floatTo (cs : List Char) : Except Error Binary64 :=
  match Number.float? (String.ofList ((Text.trim cs).map Text.asciiDigit)) with
  | some x => .ok x
  | none => scalarFault .notNumber

/-- The sum of places to base sixty, the lowest first; the lowest counts `weight`. -/
def sumPlaces : Nat → Binary64 → List Binary64 → Except Error Binary64
  | _, sum, [] => .ok sum
  | weight, sum, place :: rest =>
    match Binary64.ofInt? weight with
    | some factor => sumPlaces (60 * weight) (sum.add (place.scale factor)) rest
    | none => scalarFault .tooManyPlaces

/-- A number without its sign. -/
def unsignedFloat (cs : List Char) : Except Error Binary64 :=
  if cs = ".inf".toList then .ok (.infinity false)
  else if cs = ".nan".toList then .ok .nan
  else if cs.contains ':' then do
    let places ← (Text.pieces ':' cs).mapM floatTo
    sumPlaces 1 .zero places.reverse
  else floatTo cs

/-- The number of a scalar. -/
def floatOf (text : String) : Except Error Value := do
  let plain := (Text.lower (String.ofList (withoutUnderscores text))).toList
  if plain.isEmpty then scalarFault .emptyNumber
  else
    let (negative, unsigned) := Number.splitSign plain
    let size ← unsignedFloat unsigned
    return .float (if negative then size.neg else size)

/-! ### Other scalars -/

/-- The words for truth values. -/
def truthWords : List (String × Bool) :=
  [("yes", true), ("no", false), ("true", true), ("false", false), ("on", true), ("off", false)]

/-- The truth value of a scalar. -/
def truthOf (text : String) : Except Error Value :=
  match truthWords.lookup (Text.lower text) with
  | some b => .ok (.bool b)
  | none => scalarFault .notTruthValue

/-- The bytes of a scalar, which has to be ASCII. -/
def bytesOf (text : String) : Except Error Value :=
  if text.toList.all fun c => decide (c.toNat < 128) then
    match Text.base64? text.toList with
    | some content => .ok (.bytes content)
    | none => .error .malformed
  else .error .malformed

/-- The date or time of a scalar. -/
def timeOf (text : String) : Except Error Value :=
  match momentOf (withoutLineEnd text.toList) with
  | .ok v => .ok v
  | .error .notTime => scalarFault .notTime
  | .error .noSuchTime => scalarFault .noSuchTime

/-- The value of a scalar of a type. Collections are no scalars, and an unknown type has no
    values. -/
def scalarOf (tag : Tag) (text : String) : Except Error Value :=
  match tag with
  | .null => .ok .null
  | .bool => truthOf text
  | .int => integerOf text
  | .float => floatOf text
  | .str => .ok (.str text)
  | .timestamp => timeOf text
  | .binary => bytesOf text
  | _ => .error .malformed

/-- The value of a scalar of a type whose text stands under the key for a value. -/
def scalarUnderKey (tag : Tag) (text : String) : Except Error Value :=
  if tag = .timestamp then scalarFault .timeUnderKey else scalarOf tag text

/-! ### Faults in order

    What is in a collection is looked at after all that is in the collections around it. So of
    several faults the one that lies least deep is reported, and of those the first. -/

/-- What is wrong, and how many collections deep. -/
structure Fault where
  depth : Nat
  error : Error

/-- What a node was read as. -/
abbrev Outcome (α : Type) := Except Fault α

namespace Outcome

/-- An outcome outside of all collections. -/
def here {α : Type} (result : Except Error α) : Outcome α := result.mapError (⟨0, ·⟩)

/-- A malformed node. -/
def malformed {α : Type} : Outcome α := here (.error .malformed)

/-- The outcome of what is in a collection, seen from around it. -/
def inside {α : Type} (outcome : Outcome α) : Outcome α :=
  outcome.mapError fun fault => { fault with depth := fault.depth + 1 }

/-- Two outcomes as one. -/
def both {α β : Type} : Outcome α → Outcome β → Outcome (α × β)
  | .ok first, .ok second => .ok (first, second)
  | .ok _, .error fault => .error fault
  | .error fault, .ok _ => .error fault
  | .error first, .error second => .error (if second.depth < first.depth then second else first)

/-- Outcomes in a row as one. -/
def all {α : Type} : List (Outcome α) → Outcome (List α)
  | [] => .ok []
  | outcome :: rest => (both outcome (all rest)).map fun found => found.1 :: found.2

end Outcome

/-! ### Collections -/

/-- Whether a value can be a key. -/
def canBeKey : Value → Bool
  | .list _ => false
  | .map _ => false
  | .set _ => false
  | _ => true

/-- A key. A collection is none, whatever is in it. -/
def keyOf : Outcome Value → Outcome Value
  | .ok value => if canBeKey value then .ok value else .malformed
  | .error fault => if fault.depth = 0 then .error fault else .malformed

/-- Whether two keys are the same. What is no number is the same as itself. -/
def isSameKey (a b : Value) : Bool :=
  match a, b with
  | .float .nan, .float .nan => true
  | _, _ => Value.equals a b

/-- An entry of a mapping, of which either part may be at fault. -/
abbrev Entry := Outcome Value × Outcome Value

/-- The entries of a mapping: those it takes in from others, and its own. -/
structure Gathered where
  taken : List Entry
  own : List Entry

namespace Gathered

/-- All entries, those taken in first. -/
def all (gathered : Gathered) : List Entry := gathered.taken ++ gathered.own

/-- The entries with each key once: its last value at its first place. -/
def distinct (gathered : Gathered) : Outcome (List (Value × Value)) := do
  let entries ← Outcome.all (gathered.all.map fun entry => .both (keyOf entry.1) entry.2)
  return entries.foldl (fun known entry => Value.insertEntryBy isSameKey known entry.1 entry.2) []

end Gathered

namespace Node

/-- The tag of a node. -/
def tag : Node → Tag
  | .scalar tag _ => tag
  | .sequence tag _ => tag
  | .mapping tag _ => tag

mutual

/-- The text of a node that is to be a scalar: its own, or that under the key for a value. -/
def scalarText : Node → Except Error String
  | .scalar _ text => .ok text
  | .sequence _ _ => .error .malformed
  | .mapping _ entries => textUnderValue entries

/-- The text under the key for a value. -/
def textUnderValue : List (Node × Node) → Except Error String
  | [] => .error .malformed
  | (key, node) :: rest => if key.tag = .value then scalarText node else textUnderValue rest

end

mutual

/-- What a node is read as. A node with the tag of a collection that it is not is found at fault
    when one looks into it, with another tag at once. -/
def outcome : Node → Outcome Value
  | .scalar tag text => if tag.isCollection then .inside .malformed else .here (scalarOf tag text)
  | .sequence .sequence items => .inside (.list <$> .all (outcomes items))
  | .sequence .orderedMap items => .inside (.list <$> pairs items)
  | .sequence .pairs items => .inside (.list <$> pairs items)
  | .sequence tag _ => if tag.isCollection then .inside .malformed else .malformed
  | .mapping .mapping entries =>
    .inside (.map <$> ((Outcome.here (gather entries)) >>= (·.distinct)))
  | .mapping .set entries =>
    .inside do
      let distinct ← (← .here (gather entries)).distinct
      return Value.setOf (distinct.map (·.1))
  | .mapping tag entries =>
    if tag.isCollection then .inside .malformed
    else .here (textUnderValue entries >>= scalarUnderKey tag)

/-- What nodes are read as. -/
def outcomes : List Node → List (Outcome Value)
  | [] => []
  | item :: rest => outcome item :: outcomes rest

/-- The pairs that mappings with a single entry are. -/
def pairs : List Node → Outcome (List Value)
  | [] => .ok []
  | .mapping _ [(key, value)] :: rest => do
    let ((first, second), others) ← .both (.both (outcome key) (outcome value)) (pairs rest)
    return .tuple [first, second] :: others
  | _ :: _ => .malformed

/-- The entries of a mapping. The key for a value is a string here. -/
def gather : List (Node × Node) → Except Error Gathered
  | [] => .ok ⟨[], []⟩
  | (key, node) :: rest =>
    if key.tag = .merge then do
      let here ← takenFrom node
      let others ← gather rest
      return { others with taken := here ++ others.taken }
    else do
      let others ← gather rest
      let name := if key.tag = .value then .here (.str <$> scalarText key) else outcome key
      return { others with own := (name, outcome node) :: others.own }

/-- The entries that are taken in from a mapping, or from a sequence of mappings, of which the
    earlier ones prevail. -/
def takenFrom : Node → Except Error (List Entry)
  | .mapping _ entries => Gathered.all <$> gather entries
  | .sequence _ items => takenFromAll items
  | .scalar _ _ => .error .malformed

/-- The entries that are taken in from mappings. -/
def takenFromAll : List Node → Except Error (List Entry)
  | [] => .ok []
  | .mapping _ entries :: rest => do
    let here ← gather entries
    let others ← takenFromAll rest
    return others ++ here.all
  | _ :: _ => .error .malformed

end

/-- The value of a node. -/
def toValue (node : Node) : Except Error Value := node.outcome.mapError Fault.error

end Node

/-- Reads the only document of a text. A text without a document is null. -/
def read (text : List Char) : Except Error Value :=
  if text.all isPrintable then do
    match ← Node.ofTokens (tokens text) with
    | some node => node.toValue
    | none => return .null
  else .error .malformed

end LayerGraph.Yaml
