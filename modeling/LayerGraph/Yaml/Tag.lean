/-! # Tags

    The type of a node, by the standard names below `tag:yaml.org,2002:` or by a name of its own.
-/

namespace LayerGraph.Yaml

/-- The type of a node. -/
inductive Tag where
  | null
  | bool
  | int
  | float
  | str
  | timestamp
  | binary
  | sequence
  | mapping
  | set
  /-- A list of entries, each a mapping of its own. -/
  | orderedMap
  /-- The same, in which keys may repeat. -/
  | pairs
  /-- The key under which a mapping takes in the entries of others. -/
  | merge
  /-- The key under which a mapping holds its value as a scalar. -/
  | value
  | other (name : String)
deriving DecidableEq, Repr

namespace Tag

/-- Whether a tag is that of a collection. -/
def isCollection : Tag → Bool
  | sequence | mapping | set | orderedMap | pairs => true
  | _ => false

/-- What the names of the standard tags begin with. -/
def standardStart : String := "tag:yaml.org,2002:"

/-- The standard tags under their names. -/
def standard : List (String × Tag) :=
  [("null", null), ("bool", bool), ("int", int), ("float", float), ("str", str),
   ("timestamp", timestamp), ("binary", binary), ("seq", sequence), ("map", mapping), ("set", set),
   ("omap", orderedMap), ("pairs", pairs), ("merge", merge), ("value", value)]

/-- The tag of a full name. -/
def ofName (name : String) : Tag :=
  match standard.find? fun entry => standardStart ++ entry.1 == name with
  | some (_, tag) => tag
  | none => .other name

/-- The handles that every document knows, with the beginnings they stand for. -/
def handles : List (String × String) := [("!", "!"), ("!!", standardStart)]

end Tag

end LayerGraph.Yaml
