import LayerGraph.Proofs.Node.Expressions
import LayerGraph.Proofs.Node.Nesting
import LayerGraph.Proofs.Program.Composition
import LayerGraph.Proofs.Text.Distinct

/-! # What programs need

    The import lines and packages that layers need are those of all types in them, in preorder, each
    where it occurs first; a type without a plugin is to blame if it is the first one in that order
    (`collectMetadata_eq_ok`, `collectMetadata_eq_error`). A pipeline heads its code with the lines
    that a program of this one node reports (`metadata_in_preorder`).
-/

namespace LayerGraph.Program

section metadata
variable {resolve : Resolver} {layers : List Layer}

theorem visit_eq_ok {infos : List NodeInfo} :
    visit resolve layers = .ok infos ↔
      List.Forall₂ (fun node info => ∃ plugin, resolve node.type = .ok plugin ∧ plugin.info = info)
        (Layer.preorders layers) infos := by
  rw [visit_eq_mapM, Result.mapM_eq_ok_iff_forall₂]
  simp only [infoOf_eq_ok]

theorem exists_infoOf {type : String} :
    (∃ info, infoOf resolve type = .ok info) ↔ ∃ plugin, resolve type = .ok plugin := by
  constructor
  · rintro ⟨info, hinfo⟩
    obtain ⟨plugin, hplugin, -⟩ := infoOf_eq_ok.1 hinfo
    exact ⟨plugin, hplugin⟩
  · rintro ⟨plugin, hplugin⟩
    exact ⟨plugin.info, infoOf_eq_ok.2 ⟨plugin, hplugin, rfl⟩⟩

/-- What layers need is known if every type has a plugin, at whatever depth it stands. -/
theorem collectMetadata_isOk_iff :
    (∃ metadata, collectMetadata resolve layers = .ok metadata) ↔
      ∀ node ∈ Layer.preorders layers, ∃ plugin, resolve node.type = .ok plugin := by
  have hvisit : (∃ metadata, collectMetadata resolve layers = .ok metadata) ↔
      ∃ infos, visit resolve layers = .ok infos := by
    constructor
    · rintro ⟨metadata, hmetadata⟩
      obtain ⟨infos, hinfos, -⟩ := Result.map_eq_ok.1 hmetadata
      exact ⟨infos, hinfos⟩
    · rintro ⟨infos, hinfos⟩
      exact ⟨_, Result.map_eq_ok.2 ⟨infos, hinfos, rfl⟩⟩
  rw [hvisit, visit_eq_mapM, Result.mapM_isOk_iff]
  simp only [exists_infoOf]

/-- What layers need is what the types in them need, each text where it occurs first. -/
theorem collectMetadata_eq_ok {metadata : Metadata}
    (h : collectMetadata resolve layers = .ok metadata) :
    ∃ infos, List.Forall₂
        (fun node info => ∃ plugin, resolve node.type = .ok plugin ∧ plugin.info = info)
        (Layer.preorders layers) infos ∧
      Text.KeepsFirst (infos.flatMap (·.imports)) metadata.imports ∧
      Text.KeepsFirst (infos.flatMap (·.dependencies)) metadata.dependencies := by
  obtain ⟨infos, hinfos, rfl⟩ := Result.map_eq_ok.1 h
  exact ⟨infos, visit_eq_ok.1 hinfos, Text.distinct_keepsFirst _, Text.distinct_keepsFirst _⟩

/-- The first type in preorder that has no plugin is to blame. -/
theorem collectMetadata_eq_error {error : GraphError} :
    collectMetadata resolve layers = .error error ↔
      ∃ before node after, Layer.preorders layers = before ++ node :: after ∧
        (∀ earlier ∈ before, ∃ plugin, resolve earlier.type = .ok plugin) ∧
          resolve node.type = .error error := by
  unfold collectMetadata
  rw [Result.map_eq_error, visit_eq_mapM, Result.mapM_eq_error]
  simp only [exists_infoOf, infoOf_eq_error]

end metadata

/-! ### Pipelines and their programs -/

open Node

section pipeline
variable {resolve : Resolver} {node : Layer}

/-- A pipeline needs no import lines besides those of the layers inside. -/
theorem importsOf_pipeline (hfound : resolve node.type = .ok Pipeline.plugin) :
    Pipeline.importsOf resolve [node] = Pipeline.importsOf resolve node.child.layers := by
  have hvisit : visit resolve [node] =
      (Pipeline.info :: ·) <$> visit resolve node.child.layers := by
    rw [visit, hfound, List.append_nil]
    cases visit resolve node.child.layers <;> rfl
  unfold Pipeline.importsOf collectMetadata
  rw [hvisit]
  cases visit resolve node.child.layers <;> rfl

/-- The program of one layer is there once its code is and what it needs is known. -/
theorem build_of_single {document : Value} (hdocument : Document.layers document = .ok [node])
    {code : String} (hcode : (node.part resolve).code = .ok code) {metadata : Metadata}
    (hmetadata : collectMetadata resolve [node] = .ok metadata) (includeImports : Bool)
    (formatter : Option Fragment.Formatter) :
    ∃ program, build resolve document includeImports formatter = .ok program ∧
      program.imports = metadata.imports := by
  have hbody : codeOf resolve [node] none =
      .ok (Fragment.assemble ([code].filter (!Fragment.isBlank ·)) none) :=
    codeOf_eq_ok.2 ⟨[code], Result.mapM_cons_eq_ok.2 ⟨code, [], hcode, rfl, rfl⟩, rfl⟩
  unfold build ofLayers
  rw [hdocument]
  show ∃ program, (codeOf resolve [node] none >>= _) = _ ∧ _
  rw [hbody, hmetadata]
  exact ⟨_, rfl, rfl⟩

/-- A pipeline that writes import lines writes those that a program of this one node reports. -/
theorem pipeline_header (hfound : resolve node.type = .ok Pipeline.plugin) {settings : Entries}
    (hsettings : Pipeline.schema.parseValue Pipeline.typeKey (settingsValue node.settings) =
      .ok settings)
    (hflag : settings.flag "includeImports" = true) {code : String}
    (hcode : (node.part resolve).code = .ok code) {document : Value}
    (hdocument : Document.layers document = .ok [node]) (includeImports : Bool)
    (formatter : Option Fragment.Formatter) :
    ∃ sections program,
      Pipeline.sectionsOf resolve settings node.child.layers = .ok sections ∧
      build resolve document includeImports formatter = .ok program ∧
      code = Fragment.withImports ("\n\n".intercalate sections) program.imports := by
  have hemit := hcode
  unfold Part.code at hemit
  rw [Layer.part_codeUnder, Layer.part_layer, hfound] at hemit
  change Pipeline.emit _ _ = _ at hemit
  rw [Pipeline.emit_eq hsettings, hflag] at hemit
  obtain ⟨sections, hsections, hemit⟩ := Result.bind_eq_ok.1 hemit
  obtain ⟨imports, himports, hemit⟩ := Result.bind_eq_ok.1 hemit
  obtain rfl := Except.ok.inj hemit
  have himports := Result.mapError_eq_ok.1 himports
  rw [← importsOf_pipeline hfound] at himports
  obtain ⟨metadata, hmetadata, rfl⟩ := Result.map_eq_ok.1 himports
  obtain ⟨program, hprogram, hsame⟩ :=
    build_of_single hdocument hcode hmetadata includeImports formatter
  exact ⟨sections, program, hsections, hprogram, by rw [hsame]⟩

end pipeline

/-- What the code of layers needs is complete, in preorder and without repetitions: it is known
    exactly if all types in the layers have plugins, else the first one that has none is to blame.
    So the import lines at the head of the code of a pipeline are those that a program of this one
    node reports, in the same order. -/
theorem metadata_in_preorder (resolve : Resolver) (layers : List Layer) :
    ((∃ metadata, collectMetadata resolve layers = .ok metadata) ↔
      ∀ node ∈ Layer.preorders layers, ∃ plugin, resolve node.type = .ok plugin) ∧
    (∀ metadata, collectMetadata resolve layers = .ok metadata →
      ∃ infos, List.Forall₂
          (fun node info => ∃ plugin, resolve node.type = .ok plugin ∧ plugin.info = info)
          (Layer.preorders layers) infos ∧
        Text.KeepsFirst (infos.flatMap (·.imports)) metadata.imports ∧
        Text.KeepsFirst (infos.flatMap (·.dependencies)) metadata.dependencies) ∧
    (∀ error, collectMetadata resolve layers = .error error ↔
      ∃ before node after, Layer.preorders layers = before ++ node :: after ∧
        (∀ earlier ∈ before, ∃ plugin, resolve earlier.type = .ok plugin) ∧
          resolve node.type = .error error) ∧
    ∀ node, resolve node.type = .ok Pipeline.plugin → ∀ settings,
      Pipeline.schema.parseValue Pipeline.typeKey (settingsValue node.settings) = .ok settings →
      settings.flag "includeImports" = true → ∀ code, (node.part resolve).code = .ok code →
      ∀ document, Document.layers document = .ok [node] → ∀ includeImports formatter,
        ∃ sections program,
          Pipeline.sectionsOf resolve settings node.child.layers = .ok sections ∧
          build resolve document includeImports formatter = .ok program ∧
          code = Fragment.withImports ("\n\n".intercalate sections) program.imports :=
  ⟨collectMetadata_isOk_iff, fun _ => collectMetadata_eq_ok, fun _ => collectMetadata_eq_error,
    fun _ hfound _ hsettings hflag _ hcode _ hdocument includeImports formatter =>
      pipeline_header hfound hsettings hflag hcode hdocument includeImports formatter⟩

/-! ### A pipeline over one layer -/

/-- A layer without settings. -/
def plainLayer : Layer := .mk "ReLU" none .none

/-- A pipeline over it that is asked for import lines, as it is by default. -/
def headed : Layer := .mk "Pipeline" none (.one plainLayer)

/-- The graph that has this pipeline and nothing else. -/
def headedDocument : Value :=
  .list [.map [(.str "type", .str "Pipeline"), (.str "child", .map [(.str "type", .str "ReLU")])]]

/-- The import lines of the built-in layers. -/
def torchLines : List String := ["import torch", "import torch.nn as nn"]

theorem layers_headedDocument : Document.layers headedDocument = .ok [headed] := by cbv

theorem resolve_plainLayer : registry.resolve plainLayer.type = .ok relu.plugin :=
  @resolve_of_mem_builtins relu.plugin (by simp [builtins])

theorem resolve_headed : registry.resolve headed.type = .ok Pipeline.plugin :=
  @resolve_of_mem_builtins Pipeline.plugin (by simp [builtins])

theorem importsOf_headed :
    Pipeline.importsOf registry.resolve headed.child.layers = .ok torchLines := by
  have hvisit : visit registry.resolve headed.child.layers = .ok [relu.info] :=
    visit_eq_ok.2 (.cons ⟨relu.plugin, resolve_plainLayer, rfl⟩ .nil)
  unfold Pipeline.importsOf collectMetadata
  rw [hvisit]
  rfl

theorem code_headed : (headed.part registry.resolve).code =
    .ok (Fragment.withImports "torch.nn.ReLU()" torchLines) := by
  have hinfo : (plainLayer.part registry.resolve).info = .ok relu.info := by
    rw [Layer.part_info]
    exact congrArg _ resolve_plainLayer
  have hemit : ∀ inside : Inside, inside.given = false →
      relu.emit .null inside = .ok "torch.nn.ReLU()" := by
    rintro ⟨given, parts, metadata⟩ rfl
    cbv
  have hcode : (plainLayer.part registry.resolve).code = .ok "torch.nn.ReLU()" := by
    unfold Part.code
    rw [Layer.part_codeUnder]
    exact Result.bind_eq_ok.2
      ⟨relu.plugin, Result.mapError_eq_ok.2 resolve_plainLayer, hemit _ rfl⟩
  have hsections : Pipeline.sectionsOf registry.resolve Pipeline.schema.standards
      headed.child.layers = .ok ["torch.nn.ReLU()"] := by
    refine (Pipeline.sectionsOf_singleton _ _).trans ?_
    rw [Pipeline.sectionOf_of_code hcode hinfo rfl rfl (by decide)]
    rfl
  unfold Part.code
  rw [Layer.part_codeUnder]
  refine Result.bind_eq_ok.2 ⟨Pipeline.plugin, Result.mapError_eq_ok.2 resolve_headed, ?_⟩
  have hsettings : Pipeline.schema.parseValue Pipeline.typeKey (settingsValue none) =
      .ok Pipeline.schema.standards := rfl
  refine (Pipeline.emit_eq hsettings _).trans ?_
  rw [hsections, importsOf_headed]
  rfl

/-- The header of this pipeline, and the import lines of its program. -/
theorem metadata_in_preorder_headed :
    Document.layers headedDocument = .ok [headed] ∧
      (∃ metadata, collectMetadata registry.resolve [headed] = .ok metadata) ∧
      ∃ code, (headed.part registry.resolve).code = .ok code ∧
        ∃ sections program,
          Pipeline.sectionsOf registry.resolve Pipeline.schema.standards
            headed.child.layers = .ok sections ∧
          build registry.resolve headedDocument true none = .ok program ∧
          code = Fragment.withImports ("\n\n".intercalate sections) program.imports := by
  obtain ⟨hknown, -, -, hheader⟩ := metadata_in_preorder registry.resolve [headed]
  refine ⟨layers_headedDocument, hknown.2 ?_, _, code_headed, hheader headed resolve_headed _ rfl
    rfl _ code_headed headedDocument layers_headedDocument true none⟩
  exact List.forall_mem_cons.2 ⟨⟨_, resolve_headed⟩,
    List.forall_mem_singleton.2 ⟨_, resolve_plainLayer⟩⟩

end LayerGraph.Program
