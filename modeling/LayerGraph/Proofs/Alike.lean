import LayerGraph.Program
import LayerGraph.Proofs.Parts
import LayerGraph.Proofs.Setting.Order

/-! # Layers that are alike

    Two runs are compared step by step: they *agree* if both give results that belong together, or
    both fail with errors that do (`Agree`). Layers are alike if they differ in nothing but the
    spelling of types and the order of settings. Then they are alike as parts (`Layer.Alike.part`),
    for all plugins that do not look at either. The induction is over the tree of layers: what a
    plugin makes of its parts depends on them alone, and they are alike because the layers inside
    are.
-/

namespace LayerGraph

/-! ### Two runs -/

/-- Two computations that both give results that belong together, or both fail with errors that
    do. -/
inductive Agree {ε ε' α β : Type} (errors : ε → ε' → Prop) (results : α → β → Prop) :
    Except ε α → Except ε' β → Prop where
  | ok {a : α} {b : β} (h : results a b) : Agree errors results (.ok a) (.ok b)
  | error {e : ε} {f : ε'} (h : errors e f) : Agree errors results (.error e) (.error f)

namespace Agree

section steps
variable {ε ε' δ δ' α β γ κ : Type} {errors : ε → ε' → Prop} {results : α → β → Prop}
  {x : Except ε α} {y : Except ε' β}

theorem bind {others : γ → κ → Prop} {f : α → Except ε γ} {g : β → Except ε' κ}
    (h : Agree errors results x y)
    (hnext : ∀ a b, x = .ok a → results a b → Agree errors others (f a) (g b)) :
    Agree errors others (x >>= f) (y >>= g) := by
  cases h with
  | ok hab => exact hnext _ _ rfl hab
  | error herror => exact .error herror

theorem map {others : γ → κ → Prop} {f : α → γ} {g : β → κ} (h : Agree errors results x y)
    (hresults : ∀ a b, results a b → others (f a) (g b)) :
    Agree errors others (f <$> x) (g <$> y) := by
  cases h with
  | ok hab => exact .ok (hresults _ _ hab)
  | error herror => exact .error herror

theorem mapError {others : δ → δ' → Prop} {f : ε → δ} {g : ε' → δ'} (h : Agree errors results x y)
    (herrors : ∀ e e', errors e e' → others (f e) (g e')) :
    Agree others results (x.mapError f) (y.mapError g) := by
  cases h with
  | ok hab => exact .ok hab
  | error herror => exact .error (herrors _ _ herror)

end steps

section walks
variable {ε α β γ : Type} {errors : ε → ε → Prop}

theorem refl {results : α → α → Prop} (herrors : ∀ e, errors e e) (hresults : ∀ a, results a a)
    (x : Except ε α) : Agree errors results x x := by
  cases x with
  | ok a => exact .ok (hresults a)
  | error e => exact .error (herrors e)

theorem trans {results : α → α → Prop} (herrors : ∀ {e f g}, errors e f → errors f g → errors e g)
    (hresults : ∀ {a b c}, results a b → results b c → results a c) {x y z : Except ε α}
    (h : Agree errors results x y) (h' : Agree errors results y z) : Agree errors results x z := by
  cases h with
  | ok hab =>
    cases h' with
    | ok hbc => exact .ok (hresults hab hbc)
  | error hef =>
    cases h' with
    | error hfg => exact .error (herrors hef hfg)

/-- Walks over rows whose items give the same give the same. -/
theorem mapM {items : α → β → Prop} {f : α → Except ε γ} {g : β → Except ε γ} {xs : List α}
    {ys : List β} (h : List.Forall₂ items xs ys)
    (hstep : ∀ a b, items a b → Agree errors (· = ·) (f a) (g b)) :
    Agree errors (· = ·) (xs.mapM f) (ys.mapM g) := by
  induction h with
  | nil => exact .ok rfl
  | cons hhead _ ih =>
    rw [List.mapM_cons, List.mapM_cons]
    apply (hstep _ _ hhead).bind
    intro a b _ hab
    apply ih.bind
    intro as bs _ hall
    rw [hab, hall]
    exact .ok rfl

end walks

end Agree

/-- Errors that are of one kind and about the same keys. -/
structure GraphError.Alike (error other : GraphError) : Prop where
  kind : error.kind = other.kind
  key? : error.key? = other.key?
  keys? : error.keys? = other.keys?

theorem GraphError.Alike.refl (error : GraphError) : error.Alike error := ⟨rfl, rfl, rfl⟩

/-- Failures that are the same but for the words of an error. -/
inductive Failure.Alike : Failure → Failure → Prop where
  | graph {error other : GraphError} (h : error.Alike other) : Alike (.graph error) (.graph other)
  | same (failure : Failure) : Alike failure failure

/-- Computations with the same result, or with failures that are alike. -/
abbrev SameOutcome {α : Type} (x y : Except Failure α) : Prop := Agree Failure.Alike (· = ·) x y

/-- Answers that are the same, or errors that are alike. -/
abbrev SameAnswer {α : Type} (x y : Except GraphError α) : Prop :=
  Agree GraphError.Alike (· = ·) x y

section outcome
variable {α β : Type}

theorem SameOutcome.of_eq {x y : Except Failure α} (h : x = y) : SameOutcome x y := by
  rw [h]
  exact .refl .same (fun _ => rfl) y

/-- What goes on with the same result goes on in the same way. -/
theorem SameOutcome.bind {x y : Except Failure α} {f g : α → Except Failure β}
    (h : SameOutcome x y) (hnext : ∀ a, x = .ok a → SameOutcome (f a) (g a)) :
    SameOutcome (x >>= f) (y >>= g) := by
  apply Agree.bind h
  intro a b ha hab
  rw [← hab]
  exact hnext a ha

theorem SameAnswer.sameOutcome {x y : Except GraphError α} (h : SameAnswer x y) :
    SameOutcome (x.mapError .graph) (y.mapError .graph) :=
  h.mapError fun _ _ => .graph

end outcome

/-! ### Layers that are alike -/

variable {registry : Registry}

/-- Types with one small form find the same plugin. -/
theorem Registry.sameAnswer_resolve {type other : String} (h : Text.lower type = Text.lower other) :
    SameAnswer (registry.resolve type) (registry.resolve other) := by
  unfold Registry.resolve Registry.find?
  rw [h]
  cases registry.lookup (Text.lower other) with
  | none => exact .error ⟨rfl, rfl, rfl⟩
  | some factory =>
    dsimp only
    split
    · exact .ok rfl
    · exact .error ⟨rfl, rfl, rfl⟩
    · exact .error (.refl _)
    · exact .error ⟨rfl, rfl, rfl⟩
    · exact .error ⟨rfl, rfl, rfl⟩

/-- The settings of two layers of a type, if they are the same or differ in their order only. In the
    second case at most one of their keys is unknown to the type. -/
inductive Layer.SettingsAlike (registry : Registry) (type : String) :
    Option Entries → Option Entries → Prop where
  | same (settings : Option Entries) : SettingsAlike registry type settings settings
  | rearranged {settings other : Entries} (h : settings.Rearranged other)
      (few : ∀ plugin, registry.resolve type = .ok plugin →
        (plugin.info.schema.unknownKeys settings).length ≤ 1) :
      SettingsAlike registry type (some settings) (some other)

namespace Layer.SettingsAlike
variable {type : String} {settings other : Option Entries}

theorem get?_eq (h : SettingsAlike registry type settings other) (key : String) :
    (settings.getD []).get? key = (other.getD []).get? key := by
  cases h with
  | same => rfl
  | rearranged h => exact h.get?_eq key

/-- Settings that are alike pass the checks of their type in the same way. -/
theorem parseValue_eq (h : SettingsAlike registry type settings other) {plugin : Plugin}
    (found : registry.resolve type = .ok plugin) (nodeType : String) :
    plugin.info.schema.parseValue nodeType (settingsValue settings) =
      plugin.info.schema.parseValue nodeType (settingsValue other) := by
  cases h with
  | same => rfl
  | rearranged h few => exact h.parseValue_eq (few plugin found) nodeType

/-- They also do if their layers are bound to attributes. -/
theorem parseValue_boundSettings_eq (h : SettingsAlike registry type settings other)
    {plugin : Plugin} (found : registry.resolve type = .ok plugin) (nodeType : String) :
    plugin.info.schema.parseValue nodeType
        (.ofEntries (Node.Module.boundSettings plugin.info (settings.getD []))) =
      plugin.info.schema.parseValue nodeType
        (.ofEntries (Node.Module.boundSettings plugin.info (other.getD []))) := by
  cases h with
  | same => rfl
  | @rearranged entries others h few =>
    have hsublist := Node.Module.unknownKeys_boundSettings_sublist plugin.info entries
    exact (Node.Module.rearranged_boundSettings h plugin.info).parseValue_eq
      (hsublist.length_le.trans (few plugin found)) nodeType

end Layer.SettingsAlike

/-- Layers that differ, at whatever depth, in the spelling of types and the order of settings
    only. -/
inductive Layer.Alike (registry : Registry) : Layer → Layer → Prop where
  | intro {layer other : Layer} (type : Text.lower layer.type = Text.lower other.type)
      (settings : SettingsAlike registry layer.type layer.settings other.settings)
      (length : layer.child.layers.length = other.child.layers.length)
      (inside : ∀ {inner outer}, (inner, outer) ∈ layer.child.layers.zip other.child.layers →
        Alike registry inner outer) : Alike registry layer other

namespace Layer.Alike

theorem refl (layer : Layer) : layer.Alike registry layer := by
  induction layer using Layer.induct with
  | inherits layer ih =>
    obtain ⟨hlength, hzip⟩ := List.forall₂_iff_zip.1 (List.forall₂_same.2 ih)
    exact .intro rfl (.same _) hlength hzip

theorem forall₂_inside {layer other : Layer} (h : layer.Alike registry other) :
    List.Forall₂ (Layer.Alike registry) layer.child.layers other.child.layers := by
  cases h with
  | intro _ _ hlength hinside => exact List.forall₂_iff_zip.2 ⟨hlength, hinside⟩

end Layer.Alike

/-- Visits of layers that are alike find the same node types. -/
theorem sameAnswer_visit {layers others : List Layer}
    (h : List.Forall₂ (Layer.Alike registry) layers others) :
    SameAnswer (visit registry.resolve layers) (visit registry.resolve others) := by
  induction layers using visit.induct generalizing others with
  | case1 =>
    cases h
    exact .refl .refl (fun _ => rfl) _
  | case2 layer waiting ih =>
    cases h with
    | @cons _ other _ rest hlayer hwaiting =>
      rw [visit, visit]
      -- what stands inside a layer is visited in front of what waits
      have hboth := List.rel_append hlayer.forall₂_inside hwaiting
      cases hlayer with
      | intro htype =>
        apply (Registry.sameAnswer_resolve htype).bind
        intro plugin _ _ hplugin
        apply (ih hboth).bind
        intro infos _ _ hinfos
        rw [hplugin, hinfos]
        exact .ok rfl

/-! ### Parts that are alike -/

/-- Parts that a plugin cannot tell apart, whether it embeds them as they are or as attributes. -/
structure Part.Alike (part other : Part) : Prop where
  get?_eq : ∀ key, (part.layer.settings.getD []).get? key = (other.layer.settings.getD []).get? key
  info : SameAnswer part.info other.info
  code : SameOutcome part.code other.code
  bound : ∀ info, part.info = .ok info →
    SameOutcome
      (part.codeUnder (.ofEntries (Node.Module.boundSettings info (part.layer.settings.getD []))))
      (other.codeUnder (.ofEntries (Node.Module.boundSettings info (other.layer.settings.getD []))))

/-- What two layers hold, if a plugin cannot tell it apart. -/
structure Inside.Alike (inside other : Inside) : Prop where
  given : inside.given = other.given
  parts : Agree GraphError.Alike (List.Forall₂ Part.Alike) inside.parts other.parts
  metadata : SameAnswer inside.metadata other.metadata

/-- A plugin for which only the outcome of the checks counts, and what it can tell of its parts. -/
structure Plugin.IsIndifferent (plugin : Plugin) : Prop where
  given : ∀ {given other : Value}, plugin.info.schema.parseValue plugin.info.typeKey given =
      plugin.info.schema.parseValue plugin.info.typeKey other →
    ∀ inside, plugin.emit given inside = plugin.emit other inside
  inside : ∀ {inside other : Inside}, inside.Alike other →
    ∀ given, SameOutcome (plugin.emit given inside) (plugin.emit given other)

/-- A registry all of whose plugins are indifferent. -/
def Registry.IsIndifferent (registry : Registry) : Prop :=
  ∀ type plugin, registry.resolve type = .ok plugin → plugin.IsIndifferent

section parts
variable (indifferent : registry.IsIndifferent)
include indifferent

/-- Layers that are alike have the same code under settings that pass the checks in the same way, if
    what they hold is alike. -/
theorem Layer.sameOutcome_codeUnder {layer other : Layer}
    (htype : Text.lower layer.type = Text.lower other.type)
    (hinside : (layer.child.inside registry.resolve).Alike (other.child.inside registry.resolve))
    {given others : Value}
    (hgiven : ∀ plugin, registry.resolve layer.type = .ok plugin →
      plugin.info.schema.parseValue plugin.info.typeKey given =
        plugin.info.schema.parseValue plugin.info.typeKey others) :
    SameOutcome ((layer.part registry.resolve).codeUnder given)
      ((other.part registry.resolve).codeUnder others) := by
  rw [Layer.part_codeUnder, Layer.part_codeUnder]
  apply (Registry.sameAnswer_resolve htype).sameOutcome.bind
  -- it is one plugin, which first sees other settings and then other parts
  intro plugin hplugin
  have found := Result.mapError_eq_ok.1 hplugin
  have hindifferent := indifferent layer.type plugin found
  rw [hindifferent.given (hgiven plugin found)]
  exact hindifferent.inside hinside others

/-- Layers that are alike are alike as parts. -/
theorem Layer.Alike.part {layer other : Layer} (h : layer.Alike registry other) :
    (layer.part registry.resolve).Alike (other.part registry.resolve) := by
  induction h with
  | @intro layer other htype hsettings hlength hlayers ih =>
    -- what stands inside is alike: its parts by induction, and what it needs by the visit
    have hinside : (layer.child.inside registry.resolve).Alike
        (other.child.inside registry.resolve) := by
      refine ⟨?given, ?parts, ?metadata⟩
      case given =>
        rw [Child.inside_given, Child.inside_given]
        congr 1
        rw [Bool.eq_iff_iff, List.isEmpty_iff_length_eq_zero, List.isEmpty_iff_length_eq_zero,
          hlength]
      case parts =>
        rw [Child.inside_parts, Child.inside_parts]
        apply Agree.ok
        rw [List.forall₂_map_left_iff, List.forall₂_map_right_iff]
        exact List.forall₂_iff_zip.2 ⟨hlength, ih⟩
      case metadata =>
        rw [Child.inside_metadata, Child.inside_metadata]
        apply (sameAnswer_visit (List.forall₂_iff_zip.2 ⟨hlength, hlayers⟩)).map
        intro infos others hinfos
        rw [hinfos]
    refine ⟨?get, ?info, ?code, ?bound⟩
    case get =>
      rw [Layer.part_layer, Layer.part_layer]
      exact hsettings.get?_eq
    case info =>
      rw [Layer.part_info, Layer.part_info]
      apply (Registry.sameAnswer_resolve htype).map
      intro plugin _ hplugin
      rw [hplugin]
    case code =>
      unfold Part.code
      rw [Layer.part_layer, Layer.part_layer]
      apply Layer.sameOutcome_codeUnder indifferent htype hinside
      intro plugin found
      exact hsettings.parseValue_eq found _
    case bound =>
      intro info hinfo
      rw [Layer.part_layer, Layer.part_layer]
      apply Layer.sameOutcome_codeUnder indifferent htype hinside
      intro plugin found
      rw [Layer.part_info, found] at hinfo
      obtain rfl := Except.ok.inj hinfo
      exact hsettings.parseValue_boundSettings_eq found _

end parts

end LayerGraph
