import LayerGraph.Proofs.Document

/-! # The forms of a document

    A graph can be given as a list, as a list under `layers`, or as an object with a layer under
    each key. The three forms say the same, the first malformed layer is to blame in all of them,
    and what was read can be written as a list and read again (`layers_of_any_form`).

    Reading gives a normal form: the settings of a layer that was read hold each key once, so that
    laying them over nothing gives them back. The layers inside do so at every depth.
-/

namespace LayerGraph

/-! ### Keys that occur once -/

namespace Entries

/-- The keys of entries, in order. -/
def keys (entries : Entries) : List String := entries.map Prod.fst

theorem any_key_eq_false {entries : Entries} {key : String} (h : key ∉ entries.keys) :
    entries.any (·.1 == key) = false := by
  rw [List.any_eq_false]
  intro entry hentry hkey
  exact h (beq_iff_eq.1 hkey ▸ List.mem_map_of_mem hentry)

/-- A key that is there is kept in its place, so the keys are those from before. -/
theorem keys_set_of_mem {entries : Entries} {key : String} (value : Value)
    (h : entries.any (·.1 == key) = true) : (entries.set key value).keys = entries.keys := by
  rw [set_of_mem value h, keys, keys, List.map_map]
  apply List.map_congr_left
  intro entry _
  dsimp only [Function.comp_apply]
  split <;> rfl

/-- Writing a value leaves every key at most once. -/
theorem nodup_keys_set {entries : Entries} (h : entries.keys.Nodup) (key : String)
    (value : Value) : (entries.set key value).keys.Nodup := by
  cases hany : entries.any (·.1 == key) with
  | true =>
    rw [keys_set_of_mem value hany]
    exact h
  | false =>
    rw [set_of_not_mem value hany, keys, List.map_append]
    refine List.nodup_append.2 ⟨h, List.nodup_cons.2 ⟨List.not_mem_nil, List.nodup_nil⟩, ?_⟩
    intro k hk l hl hkl
    obtain rfl := List.mem_singleton.1 hl
    obtain ⟨entry, hentry, rfl⟩ := List.mem_map.1 hk
    exact absurd (beq_iff_eq.2 hkl) (List.any_eq_false.1 hany entry hentry)

end Entries

/-- Settings that hold each key once, as far as there are settings. -/
def hasDistinctKeys (settings : Option Entries) : Prop := (settings.getD []).keys.Nodup

/-! ### The value under a text -/

theorem Value.member?_ofEntries (key : String) (entries : Entries) :
    member? key (entries.map fun entry => (.str entry.1, entry.2)) = entries.get? key := by
  induction entries with
  | nil => rfl
  | cons entry rest ih =>
    obtain ⟨name, value⟩ := entry
    rw [List.map_cons, member?]
    by_cases h : key = name
    · subst h
      rw [Entries.get?_cons_self]
      exact if_pos rfl
    · rw [Entries.get?_cons_of_ne h, ← ih]
      exact if_neg fun same => h (Option.some.inj same).symm

namespace Document

/-! ### Settings are read back -/

theorem nodup_keys_of_entriesOver {known result : Entries} {entries : List (Value × Value)}
    (hknown : known.keys.Nodup) (h : entriesOver known entries = .ok result) :
    result.keys.Nodup := by
  induction entries generalizing known with
  | nil =>
    obtain rfl := Except.ok.inj h
    exact hknown
  | cons entry rest ih =>
    obtain ⟨key, value⟩ := entry
    rw [entriesOver] at h
    obtain ⟨name, _, h⟩ := Result.bind_eq_ok.1 h
    exact ih (Entries.nodup_keys_set hknown name value) h

theorem nodup_keys_of_entriesOf {entries : List (Value × Value)} {settings : Entries}
    (h : entriesOf entries = .ok settings) : settings.keys.Nodup := by
  have hnone : Entries.keys [] = [] := rfl
  exact nodup_keys_of_entriesOver (hnone ▸ List.nodup_nil) h

/-- Settings that are read hold each key once, whatever the mapping held. -/
theorem hasDistinctKeys_of_settingsOf : SettingsHave (fun _ => True) hasDistinctKeys := by
  intro members settings _ h
  unfold settingsOf at h
  split at h
  · obtain rfl := Except.ok.inj h
    exact List.nodup_nil
  · obtain rfl := Except.ok.inj h
    exact List.nodup_nil
  · obtain ⟨result, hresult, rfl⟩ := Result.map_eq_ok.1 h
    exact nodup_keys_of_entriesOf hresult
  · exact absurd h nofun

/-- Entries with new keys are laid behind those that are known. -/
theorem entriesOver_ofEntries {known entries : Entries}
    (h : (Entries.keys (known ++ entries)).Nodup) :
    entriesOver known (entries.map fun entry => (.str entry.1, entry.2)) =
      .ok (known ++ entries) := by
  induction entries generalizing known with
  | nil => rw [List.append_nil, List.map_nil, entriesOver]
  | cons entry rest ih =>
    obtain ⟨name, value⟩ := entry
    have hnew : name ∉ known.keys := by
      rw [Entries.keys, List.map_append] at h
      intro hmem
      exact (List.nodup_append.1 h).2.2 name hmem name List.mem_cons_self rfl
    have hset : known.set name value = known ++ [(name, value)] :=
      Entries.set_of_not_mem value (Entries.any_key_eq_false hnew)
    have hover : known ++ (name, value) :: rest = known.set name value ++ rest := by
      rw [hset, List.append_assoc, List.singleton_append]
    rw [hover] at h ⊢
    rw [← ih h]
    rfl

theorem settingsOf_settingsValue {settings : Option Entries} (h : hasDistinctKeys settings)
    {type child : Value} :
    settingsOf [(.str "type", type), (.str "settings", settingsValue settings),
      (.str "child", child)] = .ok settings := by
  have hfound : Value.member? "settings" [(.str "type", type),
      (.str "settings", settingsValue settings), (.str "child", child)] =
        some (settingsValue settings) := by
    simp [Value.member?, Value.text?]
  unfold settingsOf
  rw [hfound]
  cases settings with
  | none => rfl
  | some entries =>
    have hkeys : (Entries.keys ([] ++ entries)).Nodup := h
    have hback : entriesOf (entries.map fun entry => (.str entry.1, entry.2)) = .ok entries :=
      entriesOver_ofEntries hkeys
    exact congrArg (some <$> ·) hback

/-! ### Layers are read back -/

theorem ofMembers_of_toValue {type : String} {settings : Option Entries}
    (hsettings : hasDistinctKeys settings) {child : Child}
    (hchild : childOf child.toValue = .ok child) :
    let members := [(.str "type", .str type), (.str "settings", settingsValue settings),
      (.str "child", child.toValue)]
    ofMembers members (childIn members) = .ok (.mk type settings child) := by
  intro members
  have hread : childIn members = .ok child := by
    simpa [members, childIn, Value.text?] using hchild
  have htype : typeOf members = .ok type := rfl
  rw [ofMembers, htype, settingsOf_settingsValue hsettings, hread]
  rfl

mutual

/-- A layer is read back from what is written for it. -/
theorem layerOf_toValue : ∀ layer : Layer, layer.Throughout hasDistinctKeys →
    layerOf layer.toValue = .ok layer
  | .mk type settings child, h => by
    obtain ⟨_, hsettings, hinside⟩ := h
    rw [Layer.toValue]
    exact ofMembers_of_toValue hsettings (childOf_toValue child hinside)

theorem childOf_toValue : ∀ child : Child,
    (∀ inner ∈ child.layers, inner.Throughout hasDistinctKeys) →
      childOf child.toValue = .ok child
  | .none, _ => rfl
  | .one (.mk type settings child), h => by
    obtain ⟨_, hsettings, hinside⟩ := h _ List.mem_cons_self
    rw [Child.toValue, Layer.toValue]
    -- a single child is read as a layer is
    exact congrArg oneOf (ofMembers_of_toValue hsettings (childOf_toValue child hinside))
  | .many layers, h => by
    rw [Child.toValue, childOf, layersOf_toValues layers h]
    rfl

theorem layersOf_toValues : ∀ layers : List Layer,
    (∀ layer ∈ layers, layer.Throughout hasDistinctKeys) →
      layersOf (Layer.toValues layers) = .ok layers
  | [], _ => rfl
  | layer :: rest, h => by
    obtain ⟨hlayer, hrest⟩ := List.forall_mem_cons.1 h
    rw [Layer.toValues, layersOf, layerOf_toValue layer hlayer, layersOf_toValues rest hrest]
    rfl

end

/-! ### The first malformed layer -/

theorem layersOf_eq_mapM (items : List Value) : layersOf items = items.mapM layerOf := by
  induction items with
  | nil => rfl
  | cons item rest ih =>
    rw [layersOf, List.mapM_cons, ih]

/-- The error of a document with a malformed layer. -/
def malformed (fault : LayerFault) : GraphError :=
  .invalidGraph (.layer fault.path fault.fault) none none

/-- A document that is neither a list nor an object gives no layers, and any other gives some. -/
theorem itemsOf_eq_error {document : Value} {error : GraphError} :
    itemsOf document = .error error ↔
      (∀ items, document ≠ .list items) ∧ (∀ members, document ≠ .map members) ∧
        error = .invalidGraph (.notGraph document.typeName) none none := by
  cases document with
  | list items => simp [itemsOf]
  | map members =>
    unfold itemsOf
    dsimp only
    split <;> simp
  | _ => simp [itemsOf, eq_comm]

theorem layers_eq_error {document : Value} {error : GraphError} :
    layers document = .error error ↔
      itemsOf document = .error error ∨
        ∃ before item after fault, itemsOf document = .ok (before ++ item :: after) ∧
          (∀ good ∈ before, ∃ layer, layerOf good = .ok layer) ∧
            layerOf item = .error fault ∧ error = malformed fault := by
  rw [layers, Result.bind_eq_error]
  apply or_congr Iff.rfl
  simp only [Result.mapError_eq_error, layersOf_eq_mapM, Result.mapM_eq_error]
  constructor
  · rintro ⟨items, hitems, fault, ⟨before, item, after, rfl, hbefore, hitem⟩, rfl⟩
    exact ⟨before, item, after, fault, hitems, hbefore, hitem, rfl⟩
  · rintro ⟨before, item, after, fault, hitems, hbefore, hitem, rfl⟩
    exact ⟨_, hitems, fault, ⟨before, item, after, rfl, hbefore, hitem⟩, rfl⟩

/-! ### The three forms -/

theorem itemsOf_envelope (items : List Value) :
    itemsOf (.ofEntries [("layers", .list items)]) = .ok items := by
  simp [Value.ofEntries, itemsOf, Value.member?, Value.text?]

/-- An object with layers under keys is not taken for one with a list under `layers`. -/
theorem itemsOf_keyed {keys : List String} {items : List Value}
    (hlength : keys.length = items.length)
    (hkeys : ∀ inner, ("layers", Value.list inner) ∉ keys.zip items) :
    itemsOf (.ofEntries (keys.zip items)) = .ok items := by
  have hitems : ((keys.zip items).map fun entry => (Value.str entry.1, entry.2)).map (·.2) =
      items := by
    rw [List.map_map]
    exact List.map_snd_zip (Nat.le_of_eq hlength.symm)
  rw [Value.ofEntries, itemsOf, Value.member?_ofEntries, hitems]
  split
  · next inner hfound => exact absurd (Entries.mem_of_get? hfound) (hkeys inner)
  · rfl

theorem layers_congr {document other : Value} (h : itemsOf document = itemsOf other) :
    layers document = layers other := by
  rw [layers, layers, h]

/-- The three forms of a document give the same layers or the same error. A document is refused
    exactly if it is neither a list nor an object or if an item is malformed, with the fault of the
    first such item. Layers that were read are read again from what is written for them. -/
theorem layers_of_any_form :
    (∀ (keys : List String) (items : List Value), keys.length = items.length →
      (∀ inner, ("layers", Value.list inner) ∉ keys.zip items) →
        layers (.ofEntries [("layers", .list items)]) = layers (.list items) ∧
          layers (.ofEntries (keys.zip items)) = layers (.list items)) ∧
    (∀ (document : Value) (error : GraphError), layers document = .error error ↔
      ((∀ items, document ≠ .list items) ∧ (∀ members, document ≠ .map members) ∧
        error = .invalidGraph (.notGraph document.typeName) none none) ∨
      ∃ before item after fault, itemsOf document = .ok (before ++ item :: after) ∧
        (∀ good ∈ before, ∃ layer, layerOf good = .ok layer) ∧
          layerOf item = .error fault ∧ error = malformed fault) ∧
    ∀ (document : Value) (all : List Layer), layers document = .ok all →
      layers (.list (Layer.toValues all)) = .ok all := by
  refine ⟨?forms, ?blame, ?again⟩
  case forms =>
    intro keys items hlength hkeys
    exact ⟨layers_congr (itemsOf_envelope items), layers_congr (itemsOf_keyed hlength hkeys)⟩
  case blame =>
    intro document error
    rw [layers_eq_error, itemsOf_eq_error]
  case again =>
    intro document all h
    have hdistinct : ∀ layer ∈ all, layer.Throughout hasDistinctKeys :=
      throughout_of_mem_layers ⟨fun _ _ _ => trivial, fun _ _ _ => trivial, fun _ _ _ => trivial,
        fun _ _ _ => trivial⟩ hasDistinctKeys_of_settingsOf trivial h
    rw [layers]
    exact Result.mapError_eq_ok.2 (layersOf_toValues all hdistinct)

/-- A module whose only child is a list, beside a layer without settings. -/
def moduleItems : List Value :=
  [.ofEntries [("type", .str "ReLU"), ("note", .int 1)],
    .ofEntries [("type", .str "NNModule"), ("settings", .ofEntries [("className", .str "Net")]),
      ("child", .list [.ofEntries [("type", .str "Flatten"), ("child", .list [])]])]]

/-- The layers of that module, written and read again, and the same module with a number in front
    of its end. -/
theorem layers_of_any_form_module :
    let all := [Layer.mk "ReLU" none .none, .mk "NNModule" (some [("className", .str "Net")])
      (.many [.mk "Flatten" none (.many [])])]
    layers (.ofEntries (["first", "layers"].zip moduleItems)) = layers (.list moduleItems) ∧
      layers (.list moduleItems) = .ok all ∧ layers (.list (Layer.toValues all)) = .ok all ∧
        layers (.list (moduleItems ++ [.int 3, .null])) = .error (malformed notLayer) := by
  intro all
  have hkeys : ∀ inner, ("layers", Value.list inner) ∉ ["first", "layers"].zip moduleItems := by
    intro inner hmem
    simp [moduleItems, Value.ofEntries] at hmem
  have hread : layers (.list moduleItems) = .ok all := rfl
  obtain ⟨hforms, hblame, hagain⟩ := layers_of_any_form
  refine ⟨(hforms _ _ rfl hkeys).2, hread, hagain _ _ hread, (hblame _ _).2 (Or.inr ?_)⟩
  refine ⟨moduleItems, .int 3, [.null], notLayer, rfl, ?_, rfl, rfl⟩
  rw [moduleItems, List.forall_mem_cons, List.forall_mem_singleton]
  exact ⟨⟨_, rfl⟩, ⟨_, rfl⟩⟩

end Document

end LayerGraph
