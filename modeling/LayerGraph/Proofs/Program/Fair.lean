import LayerGraph.Program
import LayerGraph.Proofs.Document
import LayerGraph.Proofs.Node.Fair
import LayerGraph.Proofs.Parts

/-! # Programs that blame the graph

    With fair plugins, what keeps the layers of a document from becoming a program is the fault of
    the document (`isFairUpTo_ofLayers`). The induction is over the tree of layers: the parts inside
    a layer are sound because the layers inside are, so its own plugin fails only as expected.
-/

namespace LayerGraph

variable {others : Failure → Prop}

/-- A resolver whose plugins are fair, and which knows every type or refuses it as expected. -/
structure Resolver.IsFair (others : Failure → Prop) (resolve : Resolver) : Prop where
  plugin : ∀ type plugin, resolve type = .ok plugin → plugin.IsFair others
  standards : ∀ type plugin, resolve type = .ok plugin → plugin.info.schema.HasStandards others
  unknown : ∀ type, RefusesUpTo others (resolve type)

/-- The registry of the built-in types is fair. -/
theorem Node.resolve_isFair : Resolver.IsFair others Node.registry.resolve where
  plugin _ plugin found := isFair_of_mem_builtins plugin (mem_builtins_of_resolve found)
  standards _ plugin found := hasStandards_of_mem_builtins plugin (mem_builtins_of_resolve found)
  unknown type error refused := by
    rcases resolve_cases type with ⟨plugin, _, found⟩ | hunknown
    · rw [found] at refused
      exact absurd refused nofun
    · rw [hunknown] at refused
      obtain rfl := Except.error.inj refused
      exact Or.inl rfl

section fair
variable {resolve : Resolver}

/-- A visit fails only where a type has no plugin. -/
theorem visit_eq_error {layers : List Layer} {error : GraphError}
    (h : visit resolve layers = .error error) : ∃ type, resolve type = .error error := by
  induction layers using visit.induct with
  | case1 =>
    rw [visit] at h
    exact absurd h nofun
  | case2 layer waiting ih =>
    rw [visit] at h
    rcases Result.bind_eq_error.1 h with hlayer | ⟨plugin, _, hothers⟩
    · exact ⟨layer.type, hlayer⟩
    · rcases Result.bind_eq_error.1 hothers with hwaiting | ⟨others, _, hpure⟩
      · exact ih hwaiting
      · exact absurd hpure nofun

theorem refuses_collectMetadata (fair : resolve.IsFair others) (layers : List Layer) :
    RefusesUpTo others (collectMetadata resolve layers) := by
  intro error herror
  obtain ⟨type, htype⟩ := visit_eq_error (Result.map_eq_error.1 herror)
  exact fair.unknown type error htype

/-- A layer that has texts is a sound part, whatever stands inside it. -/
theorem Layer.part_isSound (fair : resolve.IsFair others) {layer : Layer}
    (h : layer.HasText others) : (layer.part resolve).IsSound others := by
  induction h with
  | intro layer settings inside ih =>
    -- what the plugin of the layer may count on, by induction
    have hinside : (layer.child.inside resolve).IsSound others := by
      refine ⟨?_, ?_, ?_⟩
      · rw [Child.inside_parts]
        exact FailsWith.ok _
      · rw [Child.inside_parts]
        intro parts hparts
        obtain rfl := Except.ok.inj hparts
        exact List.forall_mem_map.2 ih
      · rw [Child.inside_metadata]
        exact refuses_collectMetadata fair _
    refine ⟨?_, ?_, ?_, ?_⟩
    · rwa [Layer.part_layer]
    · rw [Layer.part_info]
      exact (fair.unknown layer.type).map _
    · rw [Layer.part_info]
      intro info hinfo
      obtain ⟨plugin, found, rfl⟩ := Result.map_eq_ok.1 hinfo
      exact fair.standards layer.type plugin found
    · intro given hgiven
      rw [Layer.part_codeUnder]
      refine (fair.unknown layer.type).isFair.bind fun plugin hplugin => ?_
      exact fair.plugin layer.type plugin (Result.mapError_eq_ok.1 hplugin) given _ hgiven hinside

namespace Program

theorem isFairUpTo_codeOf (fair : resolve.IsFair others) {layers : List Layer}
    (h : ∀ layer ∈ layers, layer.HasText others) (formatter : Option Fragment.Formatter) :
    IsFairUpTo others (codeOf resolve layers formatter) := by
  refine FailsWith.bind ?_ fun all _ => FailsWith.ok _
  unfold fragments
  rw [Layer.parts_eq_map]
  refine FailsWith.mapM fun part hpart => ?_
  obtain ⟨layer, hlayer, rfl⟩ := List.mem_map.1 hpart
  exact (Layer.part_isSound fair (h layer hlayer)).isFair_code

theorem isFairUpTo_ofLayers (fair : resolve.IsFair others) {layers : List Layer}
    (h : ∀ layer ∈ layers, layer.HasText others) (includeImports : Bool)
    (formatter : Option Fragment.Formatter) :
    IsFairUpTo others (ofLayers resolve layers includeImports formatter) := by
  refine (isFairUpTo_codeOf fair h none).bind fun body _ => ?_
  refine (refuses_collectMetadata fair layers).isFair.bind fun metadata _ => ?_
  exact FailsWith.ok _

/-- The layers of a document are there, or the document is no graph. -/
theorem refuses_layers (document : Value) : RefusesUpTo others (Document.layers document) := by
  intro error herror
  refine Or.inl ?_
  show error.kind.isUser = true
  rw [Document.kind_of_layers herror]
  rfl

/-- What is done with the layers of a document is fair if it is for all layers that have texts. -/
theorem isFair_layers_bind {α : Type} {document : Value} (hdocument : document.HasText others)
    {next : List Layer → Except Failure α}
    (hnext : ∀ layers, (∀ layer ∈ layers, layer.HasText others) → IsFairUpTo others (next layers)) :
    IsFairUpTo others ((Document.layers document).mapError .graph >>= next) := by
  refine (refuses_layers document).isFair.bind fun layers hlayers => ?_
  exact hnext layers (Document.hasText_of_mem_layers hdocument (Result.mapError_eq_ok.1 hlayers))

section document
variable {document : Value} (fair : resolve.IsFair others) (h : document.HasText others)
include fair h

theorem isFairUpTo_generate (formatter : Option Fragment.Formatter) :
    IsFairUpTo others (generate resolve document formatter) :=
  isFair_layers_bind h fun _ hlayers => isFairUpTo_codeOf fair hlayers formatter

theorem isFairUpTo_build (includeImports : Bool) (formatter : Option Fragment.Formatter) :
    IsFairUpTo others (build resolve document includeImports formatter) :=
  isFair_layers_bind h fun _ hlayers => isFairUpTo_ofLayers fair hlayers includeImports formatter

end document

end Program

end fair

end LayerGraph
