import LayerGraph.Error
import LayerGraph.Setting.Schema

/-! # Merging values

    Settings of any type laid over others. What counts as false is nothing to lay over; else a
    mapping gives its entries, and a sequence must consist of pairs.
-/

namespace LayerGraph.Value

/-- The items of a value that is a sequence of some kind. -/
def iterated? : Value → Option (List Value)
  | .tuple items => some items
  | .list items => some items
  | .set items => some items
  | .map entries => some (entries.map (·.1))
  | .str s => some (s.toList.map fun c => .str (String.singleton c))
  | .expr s => some (s.toList.map fun c => .str (String.singleton c))
  | .bytes content => some (content.map fun b => .int b.toNat)
  | _ => none

mutual

/-- Whether a value can be a key: it holds no list, mapping or set. -/
def isKey : Value → Bool
  | .tuple items => areKeys items
  | .list _ => false
  | .map _ => false
  | .set _ => false
  | _ => true

/-- Whether all of the values can be keys. -/
def areKeys : List Value → Bool
  | [] => true
  | v :: rest => isKey v && areKeys rest

end

/-- The entry that a pair is. -/
def pairOf (item : Value) : Except Failure (Value × Value) :=
  match item.iterated? with
  | none => .error .notMergeable
  | some [key, value] => if key.isKey then .ok (key, value) else .error .notMergeable
  | some _ => .error .notPair

/-- The entries that a value lays over others. -/
def entriesOf : Value → Except Failure (List (Value × Value))
  | .map entries => .ok entries
  | v =>
    match v.iterated? with
    | some items => items.mapM pairOf
    | none => .error .notMergeable

/-- The entries of the second value laid over those of the first. -/
def merge (standards : List (Value × Value)) (given : Value) :
    Except Failure (List (Value × Value)) :=
  if given.truthy then do
    let entries ← entriesOf given
    return entries.foldl (fun merged entry => insertEntry merged entry.1 entry.2) standards
  else .ok standards

end LayerGraph.Value
