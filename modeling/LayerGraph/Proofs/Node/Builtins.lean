import LayerGraph.Node.Catalog
import LayerGraph.Proofs.Registry.Names
import LayerGraph.Proofs.Result

/-! # The built-in node types

    What holds of every constructor node and of the six other node types holds of all built-in
    plugins (`forall_mem_builtins`). The registry of the built-in types answers a type with one of
    these plugins or says that it is unknown, and never anything else (`resolve_cases`); it knows
    the type of each of them (`resolve_of_mem_builtins`).
-/

namespace LayerGraph

/-! ### Look-up -/

/-- A type that is found is held by an entry of the registry. -/
theorem Registry.mem_of_find? {registry : Registry} {type : String} {factory : Factory}
    (h : registry.find? type = some factory) : ∃ key, (key, factory) ∈ registry := by
  unfold Registry.find? at h
  obtain ⟨before, after, split, _⟩ := List.lookup_eq_some_iff.1 h
  exact ⟨_, split ▸ List.mem_append_right before List.mem_cons_self⟩

namespace Node

/-- What all constructor nodes have, and the other six node types too, all built-in types have. -/
theorem forall_mem_builtins {P : Plugin → Prop}
    (constructor : ∀ node ∈ constructors, P node.plugin) (dataset : P Dataset.plugin)
    (module : P Module.plugin) (pipeline : P Pipeline.plugin) (report : P Report.plugin)
    (epoch : P Epoch.plugin) (trainer : P Trainer.plugin) : ∀ plugin ∈ builtins, P plugin := by
  simp only [constructors, List.forall_mem_cons] at constructor
  simp only [builtins, List.forall_mem_cons]
  grind

theorem exists_mem_builtins_of_mem_registry {key : String} {factory : Factory}
    (h : (key, factory) ∈ registry) : ∃ plugin ∈ builtins, factory.make = .ok (some plugin) := by
  unfold registry at h
  obtain ⟨factory', hfactory, hentry⟩ := List.mem_map.1 h
  obtain rfl : factory' = factory := congrArg Prod.snd hentry
  unfold factories at hfactory
  obtain ⟨⟨plugin, index⟩, hplugin, rfl⟩ := List.mem_map.1 hfactory
  exact ⟨plugin, (List.mem_zipIdx' hplugin).2 ▸ List.getElem_mem _, rfl⟩

/-- A type is that of a built-in plugin, or it is unknown. -/
theorem resolve_cases (type : String) :
    (∃ plugin ∈ builtins, registry.resolve type = .ok plugin) ∨
      registry.resolve type = .error (.unknownNodeType type) := by
  unfold Registry.resolve
  cases hfind : registry.find? type with
  | none => exact Or.inr rfl
  | some factory =>
    obtain ⟨key, hmem⟩ := Registry.mem_of_find? hfind
    obtain ⟨plugin, hplugin, hmake⟩ := exists_mem_builtins_of_mem_registry hmem
    exact Or.inl ⟨plugin, hplugin, by simp [hmake]⟩

theorem mem_builtins_of_resolve {type : String} {plugin : Plugin}
    (h : registry.resolve type = .ok plugin) : plugin ∈ builtins := by
  rcases resolve_cases type with ⟨plugin', hplugin', hresolve⟩ | hresolve
  · rw [hresolve] at h
    exact Except.ok.inj h ▸ hplugin'
  · rw [hresolve] at h
    exact absurd h nofun

/-- The type of a built-in plugin finds it. -/
theorem resolve_of_mem_builtins {plugin : Plugin} (h : plugin ∈ builtins) :
    registry.resolve plugin.info.typeKey = .ok plugin := by
  have hkeys : (registry.map (·.1)).Nodup := by decide
  obtain ⟨index, hindex⟩ := List.mem_iff_getElem?.1 h
  have hentry : (Text.lower plugin.info.typeKey, factoryOf plugin index) ∈ registry := by
    unfold registry factories
    rw [List.map_map]
    exact List.mem_map.2 ⟨(plugin, index), List.mk_mem_zipIdx_iff_getElem?.2 hindex, rfl⟩
  unfold Registry.resolve
  rw [(Registry.find?_eq_some_iff hkeys).2 hentry]
  rfl

end Node

end LayerGraph
