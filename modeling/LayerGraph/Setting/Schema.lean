import LayerGraph.Error
import LayerGraph.Setting.Shape

/-! # Settings of a node type

    A schema lists the settings of a node type. A setting with a standard value may be left out;
    one without is required, and null counts as absent. What the caller gives is laid over the
    standard values and checked field by field; keys that are not in the schema are faults of their
    own, after those of the fields. Main point: settings are refused for *missing* keys before
    anything else, and otherwise for the first fault.
-/

namespace LayerGraph

/-- One setting. -/
structure SettingField where
  key : String
  shape : Shape
  /-- The value of the setting when it is left out. A field without one is required. -/
  standard : Option Value

/-- The settings of a node type, in order. -/
abbrev Schema := List SettingField

namespace Schema

/-- The keys that must be given. -/
def required (schema : Schema) : List String :=
  (schema.filter (·.standard.isNone)).map (·.key)

/-- The standard values of the other keys. -/
def standards (schema : Schema) : Entries :=
  schema.filterMap fun field => field.standard.map (field.key, ·)

/-- The keys of a schema, in order. -/
def keys (schema : Schema) : List String := schema.map (·.key)

/-! ### Merging -/

/-- The entries of the second laid over those of the first. -/
def merge (standards given : Entries) : Entries :=
  given.foldl (fun merged entry => merged.set entry.1 entry.2) standards

/-- Whether a key is absent or null. -/
def isAbsent (merged : Entries) (key : String) : Bool :=
  match merged.get? key with
  | none => true
  | some .null => true
  | some _ => false

/-- The required keys that are absent. -/
def absent (merged : Entries) (required : List String) : List String :=
  required.filter (isAbsent merged)

/-! ### Checking -/

/-- A fault of the settings: under a key, something is wrong. -/
structure Fault where
  key : String
  reason : Reason
deriving DecidableEq, Repr

/-- The faults of the value of one field. -/
def fieldFaults (merged : Entries) (field : SettingField) : List Fault :=
  match field.shape.check ((merged.get? field.key).getD .null) with
  | .ok _ => []
  | .error faults => faults.toList.map fun m => ⟨field.key, .mismatch m⟩

/-- The normalised value of one field. -/
def fieldValue (merged : Entries) (field : SettingField) : String × Value :=
  match field.shape.check ((merged.get? field.key).getD .null) with
  | .ok v => (field.key, v)
  | .error _ => (field.key, .null)

/-- The faults of the keys that are not in the schema. -/
def strangers (schema : Schema) (given : Entries) : List Fault :=
  (given.filter fun entry => !schema.keys.contains entry.1).map fun entry =>
    ⟨entry.1, .unrecognized⟩

/-- The error for faults, if there are any: absent items of a pair count as missing settings and
    go before all others. -/
def errorOf (nodeType : String) (faults : List Fault) : Option GraphError :=
  let missing := (faults.filter (·.reason = .mismatch .missing)).map (·.key)
  if missing.isEmpty then
    faults.head?.map fun fault => .invalidSetting nodeType fault.key fault.reason
  else some (.missingRequired nodeType missing)

/-- Checks settings that have been laid over the standard values. `unknown` are the faults of keys
    outside the schema. -/
def checkMerged (schema : Schema) (nodeType : String) (merged : Entries) (unknown : List Fault) :
    Except GraphError Entries :=
  let missing := absent merged schema.required
  if missing.isEmpty then
    match errorOf nodeType (schema.flatMap (fieldFaults merged) ++ unknown) with
    | some error => .error error
    | none => .ok (schema.map (fieldValue merged))
  else .error (.missingRequired nodeType missing)

/-- The validated settings, normalised and in the order of the schema. -/
def parse (schema : Schema) (nodeType : String) (given : Entries) : Except GraphError Entries :=
  checkMerged schema nodeType (merge schema.standards given) (schema.strangers given)

/-! ### Mappings with keys of any type -/

/-- A key as text. An integer's digits stand for it, and a truth value counts as one. A key that has
    no text is told by its type. -/
def keyText (key : Value) : String :=
  match key with
  | .str s => s
  | .expr s => s
  | .bool b => if b then "1" else "0"
  | key =>
    match key.quoted with
    | .ok text => text
    | .error _ => s!"<unprintable {key.typeName} object>"

/-- The fault of a key outside the schema. -/
def strangerOf (schema : Schema) (entry : Value × Value) : Option Fault :=
  match entry.1.text? with
  | some key => if schema.keys.contains key then none else some ⟨key, .unrecognized⟩
  | none => some ⟨keyText entry.1, .mismatch .keyNotString⟩

/-- The entries of a mapping whose keys are strings. -/
def named (entries : List (Value × Value)) : Entries :=
  entries.filterMap fun entry => entry.1.text?.map (·, entry.2)

/-- Settings as a caller may give them: a mapping, or null for none. -/
def parseValue (schema : Schema) (nodeType : String) (given : Value) : Except Failure Entries :=
  match given with
  | .null => (schema.parse nodeType []).mapError .graph
  | .map entries =>
    (checkMerged schema nodeType (merge schema.standards (named entries))
      (entries.filterMap schema.strangerOf)).mapError .graph
  | _ => refuse (.invalidSetting nodeType "settings" .notSettings)

end Schema

end LayerGraph
