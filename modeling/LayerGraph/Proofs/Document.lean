import LayerGraph.Document
import LayerGraph.Proofs.Blame
import LayerGraph.Proofs.Value.Entries

/-! # Layers of documents

    The layers that are read from a document that can be shown carry settings that can be shown, at
    every depth (`hasText_of_mem_layers`). A document that is no graph is refused, and for nothing
    but that.
-/

namespace LayerGraph

variable {others : Failure → Prop}

/-- A layer whose settings, like those of all layers inside it, have texts. -/
inductive Layer.HasText (others : Failure → Prop) : Layer → Prop where
  | intro (layer : Layer) (settings : ∀ entry ∈ layer.settings.getD [], entry.2.HasText others)
      (inside : ∀ inner ∈ layer.child.layers, HasText others inner) : HasText others layer

theorem Value.HasText.of_member? {key : String} {members : List (Value × Value)} {v : Value}
    (h : member? key members = some v)
    (hmembers : ∀ entry ∈ members, entry.2.HasText others) : v.HasText others := by
  obtain ⟨k, hk⟩ := exists_mem_of_member? h
  exact hmembers _ hk

/-! ### Properties that are handed down -/

/-- A property of values that the values inside have as well. -/
structure Value.IsInherited (P : Value → Prop) : Prop where
  of_map : ∀ {members}, P (.map members) → ∀ entry ∈ members, P entry.2
  of_list : ∀ {items}, P (.list items) → ∀ v ∈ items, P v
  of_tuple : ∀ {items}, P (.tuple items) → ∀ v ∈ items, P v
  of_set : ∀ {items}, P (.set items) → ∀ v ∈ items, P v

theorem Value.HasText.isInherited : Value.IsInherited (Value.HasText others) where
  of_map h entry hentry := (h.of_mem_map entry hentry).2
  of_list h := h.of_mem_list
  of_tuple h := h.of_mem_tuple
  of_set h := h.of_mem_set

/-- A layer whose settings, like those of all layers inside it, are of a kind. -/
inductive Layer.Throughout (Q : Option Entries → Prop) : Layer → Prop where
  | intro (layer : Layer) (settings : Q layer.settings)
      (inside : ∀ inner ∈ layer.child.layers, Throughout Q inner) : Throughout Q layer

theorem Layer.HasText.of_throughout {layer : Layer}
    (h : layer.Throughout fun settings => ∀ entry ∈ settings.getD [], entry.2.HasText others) :
    layer.HasText others := by
  induction h with
  | intro layer settings _ ih => exact .intro layer settings ih

namespace Document

/-! ### Layers

    What the settings have in every layer that is read, they have at every depth. The document
    hands down a property `P` to its values, and `Q` is what the settings of a mapping have then. -/

section throughout

variable {P : Value → Prop} {Q : Option Entries → Prop}

/-- The settings of a mapping whose values have one property have the other. -/
def SettingsHave (P : Value → Prop) (Q : Option Entries → Prop) : Prop :=
  ∀ members settings, (∀ entry ∈ members, P entry.2) → settingsOf members = .ok settings →
    Q settings

theorem throughout_of_ofMembers (hQ : SettingsHave P Q) {members : List (Value × Value)}
    {child : Except LayerFault Child} {layer : Layer} (h : ofMembers members child = .ok layer)
    (hmembers : ∀ entry ∈ members, P entry.2)
    (hchild : ∀ c, child = .ok c → ∀ inner ∈ c.layers, inner.Throughout Q) :
    layer.Throughout Q := by
  obtain ⟨type, _, h⟩ := Result.bind_eq_ok.1 h
  obtain ⟨settings, hsettings, h⟩ := Result.bind_eq_ok.1 h
  obtain ⟨c, hc, h⟩ := Result.bind_eq_ok.1 h
  obtain rfl := Except.ok.inj h
  exact .intro _ (hQ members settings hmembers hsettings) (hchild c hc)

theorem throughout_of_manyOf {layers : Except LayerFault (List Layer)} {child : Child}
    (h : manyOf layers = .ok child)
    (hlayers : ∀ all, layers = .ok all → ∀ layer ∈ all, layer.Throughout Q) :
    ∀ inner ∈ child.layers, inner.Throughout Q := by
  cases layers with
  | ok all =>
    obtain rfl := Except.ok.inj h
    exact hlayers all rfl
  | error _ => exact absurd h nofun

theorem throughout_of_oneOf {layer : Except LayerFault Layer} {child : Child}
    (h : oneOf layer = .ok child) (hlayer : ∀ l, layer = .ok l → l.Throughout Q) :
    ∀ inner ∈ child.layers, inner.Throughout Q := by
  obtain ⟨l, hl, rfl⟩ := Result.map_eq_ok.1 (Result.mapError_eq_ok.1 h)
  exact List.forall_mem_singleton.2 (hlayer l hl)

mutual

theorem throughout_of_layerOf (hP : Value.IsInherited P) (hQ : SettingsHave P Q) :
    ∀ v : Value, P v → ∀ layer, layerOf v = .ok layer → layer.Throughout Q
  | .map members, hv, _, h =>
    throughout_of_ofMembers hQ h (hP.of_map hv)
      (throughout_of_childIn hP hQ members (hP.of_map hv))
  | .null, _, _, h | .bool _, _, _, h | .int _, _, _, h | .float _, _, _, h | .str _, _, _, h
  | .expr _, _, _, h | .bytes _, _, _, h | .tuple _, _, _, h | .list _, _, _, h | .set _, _, _, h
  | .foreign _, _, _, h => absurd h nofun

theorem throughout_of_childIn (hP : Value.IsInherited P) (hQ : SettingsHave P Q) :
    ∀ members : List (Value × Value), (∀ entry ∈ members, P entry.2) → ∀ child,
      childIn members = .ok child → ∀ inner ∈ child.layers, inner.Throughout Q
  | [], _, _, h => by
    obtain rfl := Except.ok.inj h
    exact nofun
  | (key, value) :: rest, hmembers, child, h => by
    obtain ⟨hvalue, hrest⟩ := List.forall_mem_cons.1 hmembers
    rw [childIn] at h
    split at h
    · -- the first member of that name is the child, and those behind it are not looked at
      exact throughout_of_childOf hP hQ value hvalue child h
    · exact throughout_of_childIn hP hQ rest hrest child h

theorem throughout_of_childOf (hP : Value.IsInherited P) (hQ : SettingsHave P Q) :
    ∀ v : Value, P v → ∀ child, childOf v = .ok child →
      ∀ inner ∈ child.layers, inner.Throughout Q
  | .null, _, _, h => by
    obtain rfl := Except.ok.inj h
    exact nofun
  -- a mapping is a single layer, and a sequence of any kind holds layers
  | .map members, hv, _, h => throughout_of_oneOf h fun _ hl =>
    throughout_of_ofMembers hQ hl (hP.of_map hv)
      (throughout_of_childIn hP hQ members (hP.of_map hv))
  | .list items, hv, _, h =>
    throughout_of_manyOf h (throughout_of_layersOf hP hQ items (hP.of_list hv))
  | .tuple items, hv, _, h =>
    throughout_of_manyOf h (throughout_of_layersOf hP hQ items (hP.of_tuple hv))
  | .set items, hv, _, h =>
    throughout_of_manyOf h (throughout_of_layersOf hP hQ items (hP.of_set hv))
  | .bool _, _, _, h | .int _, _, _, h | .float _, _, _, h | .str _, _, _, h | .expr _, _, _, h
  | .bytes _, _, _, h | .foreign _, _, _, h => absurd h nofun

theorem throughout_of_layersOf (hP : Value.IsInherited P) (hQ : SettingsHave P Q) :
    ∀ items : List Value, (∀ v ∈ items, P v) → ∀ layers, layersOf items = .ok layers →
      ∀ layer ∈ layers, layer.Throughout Q
  | [], _, _, h => by
    obtain rfl := Except.ok.inj h
    exact nofun
  | item :: rest, hitems, layers, h => by
    obtain ⟨hitem, hrest⟩ := List.forall_mem_cons.1 hitems
    rw [layersOf] at h
    obtain ⟨first, hfirst, h⟩ := Result.bind_eq_ok.1 h
    obtain ⟨others, hothers, h⟩ := Result.bind_eq_ok.1 h
    obtain rfl := Except.ok.inj h
    exact List.forall_mem_cons.2 ⟨throughout_of_layerOf hP hQ item hitem first hfirst,
      throughout_of_layersOf hP hQ rest hrest others hothers⟩

end

/-! ### Graphs -/

theorem inherited_of_itemsOf (hP : Value.IsInherited P) {document : Value} {items : List Value}
    (h : itemsOf document = .ok items) (hdocument : P document) : ∀ item ∈ items, P item := by
  unfold itemsOf at h
  split at h
  · obtain rfl := Except.ok.inj h
    exact hP.of_list hdocument
  · next members =>
    have hmembers : ∀ entry ∈ members, P entry.2 := hP.of_map hdocument
    split at h
    · next found hfound =>
      obtain rfl := Except.ok.inj h
      obtain ⟨k, hk⟩ := Value.exists_mem_of_member? hfound
      exact hP.of_list (hmembers _ hk)
    · obtain rfl := Except.ok.inj h
      exact List.forall_mem_map.2 hmembers
  · exact absurd h nofun

theorem throughout_of_mem_layers (hP : Value.IsInherited P) (hQ : SettingsHave P Q)
    {document : Value} (hdocument : P document) {all : List Layer}
    (h : layers document = .ok all) : ∀ layer ∈ all, layer.Throughout Q := by
  obtain ⟨items, hitems, hlayers⟩ := Result.bind_eq_ok.1 h
  exact throughout_of_layersOf hP hQ items (inherited_of_itemsOf hP hitems hdocument) all
    (Result.mapError_eq_ok.1 hlayers)

end throughout

/-! ### Settings that have texts -/

theorem hasText_of_entriesOver {known result : Entries} {entries : List (Value × Value)}
    (h : entriesOver known entries = .ok result)
    (hknown : ∀ entry ∈ known, entry.2.HasText others)
    (hentries : ∀ entry ∈ entries, entry.2.HasText others) :
    ∀ entry ∈ result, entry.2.HasText others := by
  induction entries generalizing known with
  | nil =>
    obtain rfl := Except.ok.inj h
    exact hknown
  | cons entry rest ih =>
    obtain ⟨key, value⟩ := entry
    obtain ⟨hvalue, hrest⟩ := List.forall_mem_cons.1 hentries
    rw [entriesOver] at h
    obtain ⟨name, _, h⟩ := Result.bind_eq_ok.1 h
    exact ih h (Entries.forall_mem_set (P := fun v => v.HasText others) hknown hvalue) hrest

theorem hasText_of_settingsOf : SettingsHave (Value.HasText others)
    fun settings => ∀ entry ∈ settings.getD [], entry.2.HasText others := by
  intro members settings hmembers h
  unfold settingsOf at h
  split at h
  · obtain rfl := Except.ok.inj h
    exact nofun
  · obtain rfl := Except.ok.inj h
    exact nofun
  · next entries hfound =>
    obtain ⟨result, hresult, rfl⟩ := Result.map_eq_ok.1 h
    have hgiven : (Value.map entries).HasText others := .of_member? hfound hmembers
    exact hasText_of_entriesOver hresult nofun fun entry hentry =>
      (hgiven.of_mem_map entry hentry).2
  · exact absurd h nofun

/-- The layers of a document that has a text have texts. -/
theorem hasText_of_mem_layers {document : Value} (hdocument : document.HasText others)
    {all : List Layer} (h : layers document = .ok all) : ∀ layer ∈ all, layer.HasText others :=
  fun layer hlayer => .of_throughout
    (throughout_of_mem_layers Value.HasText.isInherited hasText_of_settingsOf hdocument h layer
      hlayer)

/-- A document that is refused is no graph. -/
theorem kind_of_layers {document : Value} {error : GraphError}
    (h : layers document = .error error) : error.kind = .invalidGraph := by
  rcases Result.bind_eq_error.1 h with hitems | ⟨items, _, hlayers⟩
  · unfold itemsOf at hitems
    split at hitems
    · exact absurd hitems nofun
    · split at hitems <;> exact absurd hitems nofun
    · obtain rfl := Except.error.inj hitems
      rfl
  · obtain ⟨fault, _, rfl⟩ := Result.mapError_eq_error.1 hlayers
    rfl

end Document

end LayerGraph
