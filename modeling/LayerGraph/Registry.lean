import LayerGraph.Plugin
import LayerGraph.Text.Case

/-! # Registry

    The node types that graphs may use. Types are told apart without regard to case. A type is held
    by a *factory*, which makes a plugin on demand and may fail to. A factory keeps its type until
    it is removed: another one is refused, and the same one changes nothing.
-/

namespace LayerGraph

/-- Why a factory makes nothing. -/
inductive FactoryError where
  /-- It refuses with an error of its own. -/
  | refused (error : GraphError)
  /-- It fails with an exception of this class and these words. -/
  | raised (className words : String)
  /-- It fails with an exception of this class and these words, which a web service has an answer
      to, with this status and, if it is allowed one, this content. -/
  | answered (className words : String) (status : Fin 1000) (content : Option Value)

/-- A maker of plugins. Two factories are the same if they have the same number. -/
structure Factory where
  id : Nat
  /-- The type it is registered under unless another is asked for; empty if it has none. -/
  typeKey : String
  /-- A plugin, or nothing that is one. -/
  make : Except FactoryError (Option Plugin)

/-- Factories under the small forms of their types, in order of registration. -/
abbrev Registry := List (String × Factory)

namespace Registry

/-- The factory that holds a type. -/
def find? (registry : Registry) (type : String) : Option Factory :=
  registry.lookup (Text.lower type)

/-- The key that a factory is registered under: the one asked for, or its own. -/
def keyFor (factory : Factory) (asked : String) : String :=
  if asked.isEmpty then factory.typeKey else asked

/-- Registers a factory. Without a key, or under one that another factory holds, it is refused. -/
def register (registry : Registry) (factory : Factory) (asked : String) :
    Except Failure Registry :=
  let key := keyFor factory asked
  if key.isEmpty then .error .registration
  else match registry.find? key with
    | some holder => if holder.id = factory.id then .ok registry else .error .registration
    | none => .ok (registry ++ [(Text.lower key, factory)])

/-- Removes a type. -/
def unregister (registry : Registry) (type : String) : Registry :=
  registry.filter fun entry => !(entry.1 == Text.lower type)

theorem find?_cons (key : String) (factory : Factory) (rest : Registry) (type : String) :
    find? ((key, factory) :: rest) type =
      if Text.lower type = key then some factory else find? rest type := by
  unfold find?
  by_cases h : Text.lower type = key
  · rw [if_pos h, h, List.lookup_cons_self]
  · rw [if_neg h, List.lookup_cons, beq_false_of_ne h]

/-- A removed type is gone, and all others stay. -/
theorem find?_unregister (registry : Registry) (removed type : String) :
    (registry.unregister removed).find? type =
      if Text.lower type = Text.lower removed then none else registry.find? type := by
  induction registry with
  | nil => simp [unregister, find?]
  | cons entry rest ih =>
    obtain ⟨key, factory⟩ := entry
    unfold unregister at ih ⊢
    by_cases held : key = Text.lower removed
    · rw [List.filter_cons, if_neg (by simp [held]), ih, find?_cons, held]
      by_cases asked : Text.lower type = Text.lower removed
      · rw [if_pos asked, if_pos asked]
      · rw [if_neg asked, if_neg asked, if_neg asked]
    · rw [List.filter_cons, if_pos (by simp [held]), find?_cons, find?_cons, ih]
      by_cases asked : Text.lower type = key
      · rw [if_pos asked, if_pos asked, if_neg (fun same => held (asked ▸ same))]
      · rw [if_neg asked, if_neg asked]

theorem find?_append (registry : Registry) (key : String) (factory : Factory) (type : String) :
    find? (registry ++ [(key, factory)]) type =
      (registry.find? type).or (if Text.lower type = key then some factory else none) := by
  induction registry with
  | nil =>
    rw [List.nil_append, find?_cons]
    rfl
  | cons entry rest ih =>
    obtain ⟨held, holder⟩ := entry
    rw [List.cons_append, find?_cons, find?_cons]
    by_cases asked : Text.lower type = held
    · rw [if_pos asked, if_pos asked]
      rfl
    · rw [if_neg asked, if_neg asked]
      exact ih

/-- The plugin for a type. -/
def resolve (registry : Registry) : Resolver := fun type =>
  match registry.find? type with
  | none => .error (.unknownNodeType type)
  | some factory =>
    match factory.make with
    | .ok (some plugin) => .ok plugin
    | .ok none => .error (.pluginResolution type .notPlugin)
    | .error (.refused error) => .error error
    | .error (.raised className words) => .error (.pluginResolution type (.raised className words))
    | .error (.answered className words _ _) =>
      .error (.pluginResolution type (.raised className words))

/-- The plugin for a type that is given as a value. Only a string can have one. -/
def resolveValue (registry : Registry) (type : Value) : Except Failure Plugin :=
  match type.text? with
  | some type => (registry.resolve type).mapError .graph
  | none => do
    let shown ← orNoText type.display
    refuse (.unknownNodeType shown)

/-- The registered types, as their factories spell them. -/
def types (registry : Registry) : List String :=
  registry.map fun entry => if entry.2.typeKey.isEmpty then entry.1 else entry.2.typeKey

/-- What a factory makes, or the failure that nobody catches. -/
def call (factory : Factory) : Except Failure (Option Plugin) :=
  factory.make.mapError fun
    | .refused error => .graph error
    | .raised className words => .raised className words
    | .answered _ _ status content => .answered status content

/-- What the factories of all types make, unless one of them fails. -/
def products (registry : Registry) : Except Failure (List (Option Plugin)) :=
  registry.mapM fun entry => call entry.2

end Registry

end LayerGraph
