import LayerGraph.Number.Binary64

/-! # Values

    What a setting, a document or a log entry may hold. Mappings keep the order of their entries,
    and a set comes with its items in the order in which they are met. A raw expression is text that
    stands for itself in generated code; it is a type of its own, though it compares equal to a
    string with the same text.
-/

namespace LayerGraph

open Number (Binary64)

/-- A value of a type that documents can bring in but no setting accepts, such as a date. It is
    known by its type, its two texts and its truth only. -/
structure Foreign where
  typeName : String
  /-- Its text when it is inserted into another. -/
  display : String
  /-- Its text when it is quoted. -/
  quoted : String
  truthy : Bool := true
  /-- Whether two of them with the same text are equal. -/
  comparable : Bool := true
deriving DecidableEq, Repr

/-- A value: a scalar, a sequence, a mapping, or something foreign. -/
inductive Value where
  | null
  | bool (b : Bool)
  | int (n : Int)
  | float (x : Binary64)
  | str (s : String)
  | expr (source : String)
  | bytes (content : List UInt8)
  | tuple (items : List Value)
  | list (items : List Value)
  | set (items : List Value)
  | map (entries : List (Value × Value))
  | foreign (thing : Foreign)

instance : Inhabited Value := ⟨.null⟩

/-- Entries under string keys, in order: the settings of a layer. -/
abbrev Entries := List (String × Value)

/-- The value under a key. -/
def Entries.get? (entries : Entries) (key : String) : Option Value := entries.lookup key

/-- Writes a value under a key: in place if the key is there, else at the end. -/
def Entries.set (entries : Entries) (key : String) (value : Value) : Entries :=
  if entries.any (·.1 == key) then
    entries.map fun entry => if entry.1 == key then (entry.1, value) else entry
  else entries ++ [(key, value)]

/-- Removes a key. -/
def Entries.erase (entries : Entries) (key : String) : Entries :=
  entries.filter fun entry => !(entry.1 == key)

namespace Value

/-- A mapping with string keys as a value. -/
def ofEntries (entries : Entries) : Value := .map (entries.map fun entry => (.str entry.1, entry.2))

/-- The name of a value's type. -/
def typeName : Value → String
  | .null => "NoneType"
  | .bool _ => "bool"
  | .int _ => "int"
  | .float _ => "float"
  | .str _ => "str"
  | .expr _ => "PyExpr"
  | .bytes _ => "bytes"
  | .tuple _ => "tuple"
  | .list _ => "list"
  | .set _ => "set"
  | .map _ => "dict"
  | .foreign thing => thing.typeName

/-- Whether a value counts as true: it is not null, zero or empty. -/
def truthy : Value → Bool
  | .null => false
  | .bool b => b
  | .int n => n != 0
  | .float x => !x.eq .zero
  | .str s => !s.isEmpty
  | .expr s => !s.isEmpty
  | .bytes content => !content.isEmpty
  | .tuple items => !items.isEmpty
  | .list items => !items.isEmpty
  | .set items => !items.isEmpty
  | .map entries => !entries.isEmpty
  | .foreign thing => thing.truthy

/-- The integer that a number or truth value counts as, if it is whole. -/
def integer? : Value → Option Int
  | .bool b => some (if b then 1 else 0)
  | .int n => some n
  | .float x => x.integer?
  | _ => none

/-- The characters of a string or raw expression. -/
def text? : Value → Option String
  | .str s => some s
  | .expr s => some s
  | _ => none

/-! ### Equality across types -/

/-- Equality of two values that hold no others. Numbers are equal across their types when they
    are the same number, and so are strings and raw expressions with the same text. -/
def leafEquals (a b : Value) : Bool :=
  match a, b with
  | .null, .null => true
  | .float x, .float y => x.eq y
  | .bytes x, .bytes y => x == y
  | .foreign x, .foreign y => x.comparable && x == y
  | _, _ =>
    match a.integer?, b.integer? with
    | some m, some n => m == n
    | _, _ =>
      match a.text?, b.text? with
      | some s, some t => s == t
      | _, _ => false

mutual

/-- Equality across types. Sets are equal when they have the same items, and mappings when they
    have the same entries, in any order. -/
def equals : Value → Value → Bool
  | .tuple xs, .tuple ys => equalsAll xs ys
  | .list xs, .list ys => equalsAll xs ys
  | .set xs, .set ys => xs.length == ys.length && equalsSome xs ys
  | .map xs, .map ys => xs.length == ys.length && equalsEntries xs ys
  | a, b => leafEquals a b

/-- Equality of the items of two sequences. -/
def equalsAll : List Value → List Value → Bool
  | [], [] => true
  | x :: xs, y :: ys => equals x y && equalsAll xs ys
  | _, _ => false

/-- Whether every item of the first set is equal to one in the second. -/
def equalsSome : List Value → List Value → Bool
  | [], _ => true
  | x :: xs, ys => ys.any (equals x) && equalsSome xs ys

/-- Whether every entry of the first mapping has an equal one in the second. -/
def equalsEntries : List (Value × Value) → List (Value × Value) → Bool
  | [], _ => true
  | (key, value) :: rest, ys =>
    ys.any (fun entry => equals key entry.1 && equals value entry.2) && equalsEntries rest ys

end

/-! ### Equality within types -/

mutual

/-- Exact equality: values of different types differ, also inside tuples and lists, so `1`, `1.0`
    and `True` are three values. Entries of mappings are compared across types. -/
def same : Value → Value → Bool
  | .tuple xs, .tuple ys => sameAll xs ys
  | .list xs, .list ys => sameAll xs ys
  | a, b => a.typeName == b.typeName && equals a b

/-- Exact equality of the items of two sequences. -/
def sameAll : List Value → List Value → Bool
  | [], [] => true
  | x :: xs, y :: ys => same x y && sameAll xs ys
  | _, _ => false

end

@[simp] theorem same_null_iff {d : Value} : Value.null.same d = true ↔ d = .null := by
  cases d <;> simp [same, equals, leafEquals, typeName, integer?, text?]

/-! ### Mappings -/

/-- The value under a text among the entries of a mapping. -/
def member? (key : String) : List (Value × Value) → Option Value
  | [] => none
  | (k, v) :: rest => if k.text? = some key then some v else member? key rest

/-- Writes an entry into a mapping whose keys are compared by `alike`. The place of the first entry
    with the key, and its key, are kept. -/
def insertEntryBy (alike : Value → Value → Bool) (entries : List (Value × Value))
    (key value : Value) : List (Value × Value) :=
  if entries.any (fun entry => alike entry.1 key) then
    entries.map fun entry => if alike entry.1 key then (entry.1, value) else entry
  else entries ++ [(key, value)]

/-- Writes an entry into a mapping whose keys are compared across types. -/
def insertEntry (entries : List (Value × Value)) (key value : Value) : List (Value × Value) :=
  insertEntryBy equals entries key value

/-- A mapping from entries in which keys may repeat: the last value stands at the first place. -/
def mapOf (entries : List (Value × Value)) : Value :=
  .map (entries.foldl (fun known entry => insertEntry known entry.1 entry.2) [])

end Value

end LayerGraph
