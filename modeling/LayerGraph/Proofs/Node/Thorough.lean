import LayerGraph.Proofs.Node.Attributes
import LayerGraph.Proofs.Node.Builtins
import LayerGraph.Proofs.Parts

/-! # Plugins that read all they are given

    A plugin is *thorough* if it yields code only when nothing was put inside its layer, or when
    every part inside yields code. So a thorough plugin cannot pass over a layer that it does not
    look at. All built-in plugins are thorough (`isThorough_of_mem_builtins`): those that take no
    layers refuse them, and the others put the code of every part into their own.
-/

namespace LayerGraph

/-- A plugin that yields code only if nothing is inside, or all that is inside yields code. -/
def Plugin.IsThorough (plugin : Plugin) : Prop :=
  ∀ given inside code, plugin.emit given inside = .ok code → inside.given = true →
    ∃ parts, inside.parts = .ok parts ∧
      ∀ part ∈ parts, ∃ settings text, part.codeUnder settings = .ok text

namespace Node

/-- A plugin that first refuses what is inside is thorough. -/
theorem isThorough_of_refuseChild {plugin : Plugin} {nodeType : String}
    {rest : Value → Inside → Unit → Except Failure String}
    (h : ∀ given inside, plugin.emit given inside =
      refuseChild nodeType inside >>= rest given inside) : plugin.IsThorough := by
  intro given inside code hcode hgiven
  rw [h, Result.bind_eq_ok] at hcode
  obtain ⟨u, hrefuse, _⟩ := hcode
  rw [refuseChild_eq_ok.1 hrefuse] at hgiven
  exact absurd hgiven Bool.false_ne_true

theorem constructor_isThorough (node : ConstructorNode) : node.plugin.IsThorough :=
  isThorough_of_refuseChild fun _ _ => rfl

theorem dataset_isThorough : Dataset.plugin.IsThorough :=
  isThorough_of_refuseChild fun _ _ => rfl

theorem report_isThorough : Report.plugin.IsThorough :=
  isThorough_of_refuseChild fun _ _ => rfl

theorem trainer_isThorough : Trainer.plugin.IsThorough :=
  isThorough_of_refuseChild fun _ _ => rfl

/-! ### Plugins with layers inside -/

/-- Parts that are bound to attributes yield code. -/
theorem Module.code_of_mem_boundParts {index : Nat} {known : List String} {parts : List Part}
    {bound : List (String × String)} (h : Module.boundParts index known parts = .ok bound) :
    ∀ part ∈ parts, ∃ settings text, part.codeUnder settings = .ok text := by
  induction parts generalizing index known bound with
  | nil => exact nofun
  | cons part rest ih =>
    obtain ⟨first, others, hfirst, hothers, _⟩ := Module.boundParts_cons_eq_ok.1 h
    refine List.forall_mem_cons.2 ⟨?_, ih hothers⟩
    obtain ⟨_, _, info, code, _, hcode, _⟩ := Module.boundPart_eq_ok.1 hfirst
    exact ⟨_, code, hcode⟩

theorem module_isThorough : Module.plugin.IsThorough := by
  intro given inside code hcode _
  obtain ⟨settings, _, hparts⟩ := Result.bind_eq_ok.1 hcode
  obtain ⟨parts, hparts, hbound⟩ := Result.bind_eq_ok.1 hparts
  obtain ⟨bound, hbound, _⟩ := Result.bind_eq_ok.1 hbound
  exact ⟨parts, Result.mapError_eq_ok.1 hparts, Module.code_of_mem_boundParts hbound⟩

theorem pipeline_isThorough : Pipeline.plugin.IsThorough := by
  intro given inside code hcode _
  obtain ⟨settings, _, hparts⟩ := Result.bind_eq_ok.1 hcode
  obtain ⟨parts, hparts, hsections⟩ := Result.bind_eq_ok.1 hparts
  obtain ⟨sections, hsections, _⟩ := Result.bind_eq_ok.1 hsections
  refine ⟨parts, Result.mapError_eq_ok.1 hparts, ?_⟩
  intro part hpart
  obtain ⟨_, hsection⟩ := Result.mapM_isOk_iff.1 ⟨sections, hsections⟩ part hpart
  obtain ⟨text, htext, _⟩ := Result.bind_eq_ok.1 hsection
  exact ⟨_, text, htext⟩

theorem epoch_isThorough : Epoch.plugin.IsThorough := by
  intro given inside code hcode _
  obtain ⟨settings, _, hvalid⟩ := Result.bind_eq_ok.1 hcode
  unfold Epoch.emitValid at hvalid
  split at hvalid
  · exact absurd hvalid nofun
  · obtain ⟨parts, hparts, hblocks⟩ := Result.bind_eq_ok.1 hvalid
    obtain ⟨blocks, hblocks, _⟩ := Result.bind_eq_ok.1 hblocks
    refine ⟨parts, Result.mapError_eq_ok.1 hparts, ?_⟩
    intro part hpart
    obtain ⟨_, hblock⟩ := Result.mapM_isOk_iff.1 ⟨blocks, hblocks⟩ part hpart
    obtain ⟨text, htext, _⟩ := Result.map_eq_ok.1 hblock
    exact ⟨_, text, htext⟩

/-- Every built-in plugin is thorough. -/
theorem isThorough_of_mem_builtins : ∀ plugin ∈ builtins, plugin.IsThorough :=
  forall_mem_builtins (fun node _ => constructor_isThorough node) dataset_isThorough
    module_isThorough pipeline_isThorough report_isThorough epoch_isThorough trainer_isThorough

end Node

end LayerGraph
