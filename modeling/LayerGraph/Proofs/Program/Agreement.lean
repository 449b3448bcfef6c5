import LayerGraph.Program
import LayerGraph.Proofs.Node.Thorough
import LayerGraph.Proofs.Program.Composition

/-! # Code and programs agree

    The code of a graph can be asked for alone or as part of a program that also tells what the code
    needs. For the second the layers are visited once more, at every depth. With thorough plugins
    the visit cannot fail once there is code (`exists_collectMetadata`), since every layer inside
    has been turned into code and so has a plugin. Hence both ways give the same answer, failures
    included (`generate_eq_build`).
-/

namespace LayerGraph

/-! ### Visits -/

/-- A layer whose type has a plugin, as have the types of all layers inside it. -/
inductive Layer.IsResolved (resolve : Resolver) : Layer → Prop where
  | intro (layer : Layer) (plugin : Plugin) (found : resolve layer.type = .ok plugin)
      (inside : ∀ inner ∈ layer.child.layers, IsResolved resolve inner) : IsResolved resolve layer

/-- A visit to layers that all have plugins succeeds. -/
theorem exists_visit {resolve : Resolver} (layers : List Layer)
    (h : ∀ layer ∈ layers, layer.IsResolved resolve) :
    ∃ infos, visit resolve layers = .ok infos := by
  induction layers using visit.induct with
  | case1 => exact ⟨[], by rw [visit]⟩
  | case2 layer waiting ih =>
    obtain ⟨hlayer, hwaiting⟩ := List.forall_mem_cons.1 h
    obtain ⟨_, plugin, found, inside⟩ := hlayer
    obtain ⟨others, hothers⟩ := ih (List.forall_mem_append.2 ⟨inside, hwaiting⟩)
    refine ⟨plugin.info :: others, ?_⟩
    rw [visit]
    exact Result.bind_eq_ok.2 ⟨plugin, found, Result.bind_eq_ok.2 ⟨others, hothers, rfl⟩⟩

section thorough
variable {resolve : Resolver}

/-- With thorough plugins, a layer that yields code has plugins all the way down. -/
theorem Layer.isResolved_of_code
    (thorough : ∀ type plugin, resolve type = .ok plugin → plugin.IsThorough) (layer : Layer) :
    ∀ given code, (layer.part resolve).codeUnder given = .ok code → layer.IsResolved resolve := by
  induction layer using Layer.induct with
  | inherits layer ih =>
    intro given code hcode
    rw [Layer.part_codeUnder] at hcode
    obtain ⟨plugin, hplugin, hemit⟩ := Result.bind_eq_ok.1 hcode
    have found : resolve layer.type = .ok plugin := Result.mapError_eq_ok.1 hplugin
    refine .intro layer plugin found fun inner hinner => ?_
    -- there is a layer inside, so the plugin has been given something
    have hgiven : (layer.child.inside resolve).given = true := by
      rw [Child.inside_given, List.isEmpty_eq_false_iff_exists_mem.2 ⟨inner, hinner⟩]
      rfl
    obtain ⟨parts, hparts, hcodes⟩ := thorough layer.type plugin found _ _ _ hemit hgiven
    rw [Child.inside_parts] at hparts
    obtain rfl := Except.ok.inj hparts
    obtain ⟨settings, text, htext⟩ := hcodes _ (List.mem_map_of_mem hinner)
    exact ih inner hinner settings text htext

/-- With thorough plugins, what the code of layers needs is known once there is code. -/
theorem exists_collectMetadata
    (thorough : ∀ type plugin, resolve type = .ok plugin → plugin.IsThorough)
    {layers : List Layer} {all : List String} (h : Program.fragments resolve layers = .ok all) :
    ∃ metadata, collectMetadata resolve layers = .ok metadata := by
  rw [Program.fragments_eq_mapM] at h
  have hcodes := Result.mapM_isOk_iff.1 ⟨all, h⟩
  obtain ⟨infos, hinfos⟩ := exists_visit layers fun layer hlayer => by
    obtain ⟨code, hcode⟩ := hcodes layer hlayer
    exact layer.isResolved_of_code thorough _ code hcode
  exact ⟨Metadata.ofInfos infos, Result.map_eq_ok.2 ⟨infos, hinfos, rfl⟩⟩

end thorough

namespace Program

/-- The code of a program whose body is known, without import lines. -/
def finished (body : String) : Option Fragment.Formatter → String
  | none => body
  | some format => Fragment.assemble [body] (some format)

theorem finished_assemble (fragments : List String) (formatter : Option Fragment.Formatter) :
    finished (Fragment.assemble fragments none) formatter =
      Fragment.assemble fragments formatter := by
  cases formatter with
  | none => rfl
  | some format => rw [finished, Fragment.assemble_assemble_some]

theorem ofLayers_of_code {resolve : Resolver} {layers : List Layer} {body : String}
    {metadata : Metadata} (hbody : codeOf resolve layers none = .ok body)
    (hmetadata : collectMetadata resolve layers = .ok metadata)
    (formatter : Option Fragment.Formatter) :
    ofLayers resolve layers false formatter =
      .ok ⟨finished body formatter, metadata.imports, metadata.dependencies⟩ := by
  unfold ofLayers
  rw [hbody, hmetadata]
  cases formatter <;> rfl

theorem codeOf_of_fragments {resolve : Resolver} {layers : List Layer} {all : List String}
    (hall : fragments resolve layers = .ok all) (formatter : Option Fragment.Formatter) :
    codeOf resolve layers formatter =
      .ok (Fragment.assemble (all.filter (!Fragment.isBlank ·)) formatter) := by
  unfold codeOf
  rw [hall]
  rfl

/-- Without import lines the code of a program is the code of its layers. -/
theorem ofLayers_code {resolve : Resolver}
    (thorough : ∀ type plugin, resolve type = .ok plugin → plugin.IsThorough)
    (layers : List Layer) (formatter : Option Fragment.Formatter) :
    Program.code <$> ofLayers resolve layers false formatter =
      codeOf resolve layers formatter := by
  cases hall : fragments resolve layers with
  | error failure =>
    -- the program asks for the code first, and so fails before the visit
    unfold ofLayers codeOf
    rw [hall]
    rfl
  | ok all =>
    obtain ⟨metadata, hmetadata⟩ := exists_collectMetadata thorough hall
    -- here the code is assembled once more, which changes nothing in what is tidy already
    rw [ofLayers_of_code (codeOf_of_fragments hall none) hmetadata, codeOf_of_fragments hall]
    rw [← finished_assemble _ formatter]
    rfl

/-- The code of a graph document is that of its program without import lines: both are there or
    neither is, with the same failure. The visit that tells what the code needs never fails where
    the layers yield code, at whatever depth they stand. -/
theorem generate_eq_build (document : Value) (formatter : Option Fragment.Formatter) :
    generate Node.registry.resolve document formatter =
        Program.code <$> build Node.registry.resolve document false formatter ∧
      ∀ layers code, codeOf Node.registry.resolve layers formatter = .ok code →
        ∃ metadata, collectMetadata Node.registry.resolve layers = .ok metadata := by
  have thorough : ∀ type plugin, Node.registry.resolve type = .ok plugin → plugin.IsThorough :=
    fun type plugin found =>
      Node.isThorough_of_mem_builtins plugin (Node.mem_builtins_of_resolve found)
  constructor
  -- both read the layers of the document first, in the same way
  · unfold generate build
    cases Document.layers document with
    | error e => rfl
    | ok layers => exact (ofLayers_code thorough layers formatter).symm
  · intro layers code hcode
    obtain ⟨all, hall, _⟩ := codeOf_eq_ok.1 hcode
    rw [← fragments_eq_mapM] at hall
    exact exists_collectMetadata thorough hall

end Program

end LayerGraph
