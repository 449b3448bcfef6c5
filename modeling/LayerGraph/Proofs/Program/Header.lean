import LayerGraph.Proofs.Node.Headings
import LayerGraph.Proofs.Program.Metadata

/-! # The head of a program

    A program that is asked for its import lines begins with them. Whether they stand there only is
    up to the pipelines in it: one that writes import lines of its own repeats lines of the program
    (`header_subset`), and no other node type does. So the head of a program is its only one exactly
    if no pipeline inside has one (`import_lines_counted`).
-/

namespace LayerGraph.Program

open Fragment (occurrences solidLines)
open Node (header headers registry userCodes)

/-- A program whose only import lines are those at its head: they stand above all other lines that
    hold more than blanks, and none of them stands anywhere else. -/
structure HasSingleHeader (program : Program) : Prop where
  first : ∃ others, solidLines program.code.toList = program.imports.map String.toList ++ others
  once : ∀ line ∈ program.imports, occurrences line program.code = 1

/-- The import lines at the head of the code of a layer are needed by what is around it, too. -/
theorem header_subset {layers : List Layer} {imports : List String}
    (himports : Node.Pipeline.importsOf registry.resolve layers = .ok imports) :
    headers layers ⊆ imports := by
  intro line hline
  obtain ⟨node, hnode, hmem⟩ := List.mem_flatMap.1 hline
  obtain ⟨layer, hlayer, hinside⟩ := Layer.mem_preorders.1 hnode
  unfold header at hmem
  split at hmem
  · split at hmem
    · next inner hinner =>
      obtain ⟨other, hother, hneeds⟩ := (Node.Pipeline.mem_of_importsOf hinner).1 hmem
      have hwithin : other ∈ node.preorder := by
        rw [Layer.preorder_eq]
        exact List.mem_cons_of_mem _ hother
      refine (Node.Pipeline.mem_of_importsOf himports).2 ⟨other, ?_, hneeds⟩
      exact Layer.mem_preorders.2
        ⟨layer, hlayer, Layer.preorder_subset_of_mem layer hinside hwithin⟩
    · exact absurd hmem List.not_mem_nil
  · exact absurd hmem List.not_mem_nil

/-- A program that is asked for its import lines has them above the code of its layers. -/
theorem build_eq_ok {resolve : Resolver} {document : Value} {layers : List Layer}
    (hlayers : Document.layers document = .ok layers) {program : Program}
    (h : build resolve document true none = .ok program) :
    ∃ all, layers.mapM (fragment resolve) = .ok all ∧
      Node.Pipeline.importsOf resolve layers = .ok program.imports ∧
      program.code = Fragment.withImports
        (Fragment.assemble (all.filter (!Fragment.isBlank ·)) none) program.imports := by
  unfold build at h
  rw [hlayers] at h
  change ofLayers resolve layers true none = _ at h
  obtain ⟨body, hbody, h⟩ := Result.bind_eq_ok.1 h
  obtain ⟨metadata, hmetadata, h⟩ := Result.bind_eq_ok.1 h
  obtain rfl := Except.ok.inj h
  obtain ⟨all, hall, rfl⟩ := codeOf_eq_ok.1 hbody
  exact ⟨all, hall, Result.map_eq_ok.2 ⟨metadata, Result.mapError_eq_ok.1 hmetadata, rfl⟩, rfl⟩

section built
variable {document : Value} {layers : List Layer} {program : Program}
  (hlayers : Document.layers document = .ok layers)
  (hbuilt : build registry.resolve document true none = .ok program)
include hlayers hbuilt

/-- The import lines stand above all other lines that hold more than blanks. -/
theorem solidLines_of_build : ∃ others,
    solidLines program.code.toList = program.imports.map String.toList ++ others := by
  obtain ⟨all, -, himports, hcode⟩ := build_eq_ok hlayers hbuilt
  have hlines : ∀ line ∈ program.imports, solidLines line.toList = [line.toList] :=
    fun line hline => Node.solidLines_importLine (Node.Pipeline.mem_importLines himports line hline)
  rw [hcode, Fragment.solidLines_withImports, List.flatMap_congr hlines,
    ← List.map_eq_flatMap]
  exact ⟨_, rfl⟩

/-- Besides at the head of the program an import line stands at the heads of the pipelines that
    write it. -/
theorem occurrences_of_build
    (huser : ∀ node ∈ Layer.preorders layers, ∀ user ∈ userCodes node, ∀ line ∈ program.imports,
      occurrences line user = 0) :
    ∀ line ∈ program.imports,
      occurrences line program.code = (headers layers).count line + 1 := by
  intro line hline
  obtain ⟨all, hall, himports, hcode⟩ := build_eq_ok hlayers hbuilt
  have hbuiltin := Node.Pipeline.mem_importLines himports
  have hdistinct : ∀ layer ∈ layers, layer.Throughout hasDistinctKeys :=
    Document.throughout_of_mem_layers ⟨fun _ _ _ => trivial, fun _ _ _ => trivial,
      fun _ _ _ => trivial, fun _ _ _ => trivial⟩ Document.hasDistinctKeys_of_settingsOf trivial
      hlayers
  have hinside : (all.map (occurrences line)).sum = (headers layers).count line := by
    have hparts : (layers.map (·.part registry.resolve)).mapM (·.code) = .ok all := by
      rw [List.mapM_map]
      exact hall
    refine Node.sum_occurrences_of_mapM (fun layer hlayer => ?_) hparts
    refine Node.occurrences_code (hbuiltin line hline) layer (hdistinct layer hlayer) ?_
    exact fun node hnode user hmem =>
      huser node (Layer.mem_preorders.2 ⟨layer, hlayer, hnode⟩) user hmem line hline
  have hhead : (program.imports.map (occurrences line)).sum = 1 := by
    obtain ⟨metadata, hmetadata, hsame⟩ := Result.map_eq_ok.1 himports
    obtain ⟨infos, -, rfl⟩ := Result.map_eq_ok.1 hmetadata
    rw [Node.sum_occurrences_of_importLines hbuiltin]
    exact List.count_eq_one_of_mem (hsame ▸ Text.nodup_distinct _) hline
  rw [hcode, Fragment.occurrences_withImports, Fragment.occurrences_assemble,
    Fragment.occurrences_filter, hinside, hhead, Nat.add_comm]

end built

/-- A program that is asked for its import lines begins with them, and each stands in it once more
    for every pipeline inside that writes it. So they stand there only once exactly if no pipeline
    inside has import lines of its own. -/
theorem import_lines_counted (document : Value) (layers : List Layer)
    (hlayers : Document.layers document = .ok layers) (program : Program)
    (hbuilt : build registry.resolve document true none = .ok program)
    (huser : ∀ node ∈ Layer.preorders layers, ∀ user ∈ userCodes node, ∀ line ∈ program.imports,
      occurrences line user = 0) :
    (∃ others, solidLines program.code.toList = program.imports.map String.toList ++ others) ∧
    (∀ line ∈ program.imports,
      occurrences line program.code = (headers layers).count line + 1) ∧
    (HasSingleHeader program ↔ ∀ node ∈ Layer.preorders layers, header node = []) := by
  have hfirst := solidLines_of_build hlayers hbuilt
  have hcount := occurrences_of_build hlayers hbuilt huser
  refine ⟨hfirst, hcount, ?_⟩
  rw [← List.flatMap_eq_nil_iff]
  change _ ↔ headers layers = []
  constructor
  · intro hsingle
    obtain ⟨_, -, himports, -⟩ := build_eq_ok hlayers hbuilt
    refine List.eq_nil_iff_forall_not_mem.2 fun line hline => ?_
    have hneeded := header_subset himports hline
    have htwice := hcount line hneeded
    rw [hsingle.once line hneeded, Nat.right_eq_add, List.count_eq_zero] at htwice
    exact htwice hline
  · intro hnone
    refine ⟨hfirst, fun line hline => ?_⟩
    rw [hcount line hline, hnone, List.count_nil]

/-! ### A pipeline with a header -/

/-- The program of a pipeline that writes import lines has them twice. -/
def headedProgram : Program where
  code := "import torch\nimport torch.nn as nn\n\nimport torch\nimport torch.nn as nn\n\n" ++
    "torch.nn.ReLU()"
  imports := torchLines
  dependencies := ["torch"]

theorem build_headedDocument :
    build registry.resolve headedDocument true none = .ok headedProgram := by
  have hbody : codeOf registry.resolve [headed] none =
      .ok (Fragment.withImports "torch.nn.ReLU()" torchLines) := by
    refine codeOf_eq_ok.2 ⟨[_], Result.mapM_cons_eq_ok.2 ⟨_, [], code_headed, rfl, rfl⟩, ?_⟩
    decide +kernel
  have hvisit : visit registry.resolve [headed] = .ok [Node.Pipeline.info, Node.relu.info] :=
    visit_eq_ok.2 (.cons ⟨_, resolve_headed, rfl⟩ (.cons ⟨_, resolve_plainLayer, rfl⟩ .nil))
  have hmetadata : collectMetadata registry.resolve [headed] = .ok ⟨torchLines, ["torch"]⟩ := by
    unfold collectMetadata
    rw [hvisit]
    rfl
  unfold build ofLayers
  rw [layers_headedDocument]
  show (codeOf registry.resolve [headed] none >>= _) = _
  rw [hbody, hmetadata]
  refine congrArg Except.ok ?_
  decide +kernel

/-- So it has no single header. -/
theorem not_hasSingleHeader_headed :
    build registry.resolve headedDocument true none = .ok headedProgram ∧
      ¬HasSingleHeader headedProgram := by
  refine ⟨build_headedDocument, fun hsingle => ?_⟩
  have htwice : occurrences "import torch" headedProgram.code = 2 := by decide +kernel
  exact absurd (hsingle.once "import torch" List.mem_cons_self) (by rw [htwice]; decide)

/-- Each import line is counted once for the program and once for the pipeline. -/
theorem import_lines_counted_headed :
    Document.layers headedDocument = .ok [headed] ∧
    build registry.resolve headedDocument true none = .ok headedProgram ∧
    (∀ node ∈ Layer.preorders [headed], userCodes node = []) ∧
    header headed = torchLines ∧
    (∀ line ∈ torchLines, occurrences line headedProgram.code = 2) ∧
    ¬HasSingleHeader headedProgram := by
  have huser : ∀ node ∈ Layer.preorders [headed], userCodes node = [] :=
    List.forall_mem_cons.2 ⟨Node.userCodes_of_resolve resolve_headed rfl,
      List.forall_mem_singleton.2 (Node.userCodes_of_resolve resolve_plainLayer rfl)⟩
  have hheader : header headed = torchLines := Node.header_of_writesHeader
    ((Node.writesHeader_of_parseValue resolve_headed rfl).trans rfl) importsOf_headed
  have hinner : header plainLayer = [] := Node.header_of_not_writesHeader
    (Node.writesHeader_of_resolve resolve_plainLayer (by decide))
  have hheaders : headers [headed] = torchLines := by
    rw [headers]
    show (header headed ++ (header plainLayer ++ [])) = _
    rw [hheader, hinner]
    rfl
  obtain ⟨-, hcount, hsingle⟩ := import_lines_counted headedDocument [headed] layers_headedDocument
    headedProgram build_headedDocument fun node hnode user hmem => by
      rw [huser node hnode] at hmem
      exact absurd hmem List.not_mem_nil
  refine ⟨layers_headedDocument, build_headedDocument, huser, hheader, fun line hline => ?_,
    fun hhas => ?_⟩
  · rw [hcount line hline, hheaders, List.count_eq_one_of_mem (by decide) hline]
  · rw [hsingle.1 hhas headed List.mem_cons_self] at hheader
    exact absurd hheader (by decide)

end LayerGraph.Program
