import LayerGraph.Proofs.Node.Leaves
import LayerGraph.Proofs.Node.Statements
import Mathlib.Data.List.Forall2

/-! # What attributes are bound to

    A layer inside a module is bound to its code, if this is a single line. A constructor node is
    told to assign to no variable of its own, so its code is a call. But a report that is left out
    is bound as well, to nothing, and a pipeline does not pass on to its leaves that they must not
    assign. So what is bound depends on the leaves (`binds_of_emit`): it is blank if all of them are
    reports, and an assignment if one in a pipeline has a variable.
-/

namespace LayerGraph.Node

open Fragment (blockBelow? height stack)
open Text (lines isBlankText)

/-- A statement that assigns to a variable. -/
def IsAssignment (code : String) : Prop :=
  ∃ name rest, Text.isName name = true ∧ code = name ++ " = " ++ rest

/-- A layer that writes nothing: all its leaves are reports. -/
def IsSilent (layer : Layer) : Prop :=
  ∀ leaf ∈ leaves layer, registry.resolve leaf.type = .ok Report.plugin

/-- A constructor node that assigns to a variable under its own settings. -/
def IsAssigned (leaf : Layer) : Prop :=
  ∃ node ∈ constructors, registry.resolve leaf.type = .ok node.plugin ∧
    ∃ settings, node.schema.parseValue node.typeKey (settingsValue leaf.settings) = .ok settings ∧
      settings.get? "variableName" ≠ some .null

/-- A pipeline with a leaf that assigns to a variable. -/
def IsAssigning (layer : Layer) : Prop :=
  isPipeline layer.type = true ∧ ∃ leaf ∈ leaves layer, IsAssigned leaf

/-- What the attribute for a layer is bound to, by the leaves of the layer. -/
structure Binds (layer : Layer) (expression : String) : Prop where
  blank_iff : Fragment.isBlank expression = true ↔ IsSilent layer
  assignment_iff : IsAssignment expression ↔ IsAssigning layer
  call : ¬IsSilent layer → ¬IsAssigning layer →
    ∃ leaf ∈ leaves layer, ∃ node ∈ constructors, registry.resolve leaf.type = .ok node.plugin ∧
      ∃ arguments, expression = node.callText arguments

/-! ### Calls and assignments -/

theorem not_isAssignment_empty : ¬IsAssignment "" := by
  rintro ⟨name, rest, -, h⟩
  have hlist := congrArg String.toList h
  simp at hlist

/-- The code of a constructor node is an assignment exactly if a variable is set. -/
theorem isAssignment_iff {node : ConstructorNode} (hnode : node ∈ constructors) {given : Value}
    {settings : Entries} (h : node.schema.parseValue node.typeKey given = .ok settings)
    (arguments : String) :
    IsAssignment (ConstructorNode.assignment settings ++ node.callText arguments) ↔
      settings.get? "variableName" ≠ some .null := by
  rcases ConstructorNode.assignment_of_parseValue hnode h with
    ⟨hnull, hnone⟩ | ⟨name, hname, hvalid, htext⟩
  · refine iff_of_false ?_ (fun hne => hne hnull)
    rintro ⟨name, rest, hvalid, heq⟩
    -- a name is followed by a blank, and a callee by a parenthesis
    have hcallee := (ConstructorNode.isLegible_of_mem_constructors node hnode).callee
    have hopen : '(' ∉ name.toList := Text.not_mem_of_isName hvalid (by decide)
    have hlist := congrArg String.toList heq
    rw [hnone] at hlist
    refine Text.append_cons_ne (by decide) hopen hcallee (['=', ' '] ++ rest.toList)
      (arguments.toList ++ [')']) ?_
    simpa [ConstructorNode.callText] using hlist.symm
  · rw [hname]
    exact iff_of_true ⟨name, _, hvalid, by rw [htext]⟩ (by simp)

theorem report_ne_constructor {node : ConstructorNode} (hnode : node ∈ constructors) {type : String}
    (h : registry.resolve type = .ok node.plugin) : registry.resolve type ≠ .ok Report.plugin := by
  have hothers : ∀ node ∈ constructors, node.typeKey ≠ Report.typeKey := by decide
  intro hreport
  have hsame := Except.ok.inj (h.symm.trans hreport)
  exact hothers node hnode (congrArg (·.info.typeKey) hsame)

/-- What is bound to an attribute has no variable of its own. -/
theorem variableName_of_boundSettings {node : ConstructorNode} (hnode : node ∈ constructors)
    {own settings : Entries} (h : node.schema.parseValue node.typeKey
      (.ofEntries (Module.boundSettings node.info own)) = .ok settings) :
    settings.get? "variableName" = some .null := by
  have hstandard : ∀ node ∈ constructors,
      node.info.schema.standards.any (·.1 == "variableName") = true := by decide
  have hlegible := ConstructorNode.isLegible_of_mem_constructors node hnode
  obtain ⟨target, htarget, hkey, hshape⟩ := hlegible.target
  unfold Module.boundSettings at h
  dsimp only at h
  rw [if_pos (hstandard node hnode), Value.ofEntries, Schema.parseValue,
    Schema.named_ofEntries] at h
  obtain ⟨hsettings, -⟩ := Schema.checkMerged_eq_ok (Result.mapError_eq_ok.1 h)
  rw [hsettings, ← hkey, Schema.get?_map_fieldValue hlegible.keys htarget]
  unfold Schema.fieldValue
  rw [Schema.get?_merge_set_erase, hshape]
  rfl

/-! ### Layers inside a module -/

/-- A call is bound as it is. -/
theorem binds_of_emit_call {layer leaf : Layer} (hleaf : leaf ∈ leaves layer)
    {node : ConstructorNode} (hnode : node ∈ constructors)
    (hfound : registry.resolve leaf.type = .ok node.plugin) {given : Value} {inside : Inside}
    {code : String} (hcode : node.emit given inside = .ok code)
    (hassigned : ∀ settings, node.schema.parseValue node.typeKey given = .ok settings →
      (settings.get? "variableName" ≠ some .null ↔ IsAssigning layer)) :
    Binds layer (Module.trimmed code) := by
  obtain ⟨settings, arguments, hsettings, htext⟩ := ConstructorNode.exists_of_emit hcode
  have htrimmed : Module.trimmed code = code := by
    unfold Module.trimmed Text.trim
    rw [ConstructorNode.trimWhile_of_emit hnode hcode fun _ hc => hc, String.ofList_toList]
  have hsolid : Fragment.isBlank code = false := by
    have hpos := ConstructorNode.height_pos_of_emit hnode hcode
    exact Bool.eq_false_iff.2 fun hblank =>
      Nat.ne_of_gt hpos (Fragment.height_eq_zero_iff.2 hblank)
  have hloud : ¬IsSilent layer := fun hsilent =>
    report_ne_constructor hnode hfound (hsilent leaf hleaf)
  have hassignment : IsAssignment code ↔ IsAssigning layer := by
    rw [htext]
    exact (isAssignment_iff hnode hsettings arguments).trans (hassigned settings hsettings)
  rw [htrimmed]
  refine ⟨iff_of_false (Bool.eq_false_iff.1 hsolid) hloud, hassignment, ?_⟩
  intro _ hplain
  refine ⟨leaf, hleaf, node, hnode, hfound, arguments, ?_⟩
  have hnull : settings.get? "variableName" = some .null :=
    Classical.not_not.1 fun hne => hplain ((hassigned settings hsettings).1 hne)
  rcases ConstructorNode.assignment_of_parseValue hnode hsettings with
    ⟨-, hnone⟩ | ⟨name, hname, -, -⟩
  · rw [htext, hnone, String.empty_append]
  · exact absurd (hnull.symm.trans hname) nofun

/-- Nothing is bound for a layer that is silent. -/
theorem binds_nothing {layer : Layer} (hsilent : IsSilent layer) : Binds layer "" := by
  refine ⟨iff_of_true rfl hsilent, iff_of_false not_isAssignment_empty ?_, ?_⟩
  · rintro ⟨-, leaf, hleaf, node, hnode, hfound, -⟩
    exact report_ne_constructor hnode hfound (hsilent leaf hleaf)
  · exact fun hloud => absurd hsilent hloud

/-- What a pipeline is bound to is the line that its leaves make. -/
theorem IsLineOf.binds {layer : Layer} {code : String} (hpipeline : isPipeline layer.type = true)
    (h : IsLineOf (leaves layer) code) : Binds layer (Module.trimmed code) := by
  cases h with
  | nothing reports => exact binds_nothing fun leaf hleaf => (reports leaf hleaf).found
  | @call leaf node _ mem others hnode found written =>
    refine binds_of_emit_call mem hnode found (emit_of_code found written)
      fun settings hsettings => ?_
    constructor
    · exact fun hne => ⟨hpipeline, leaf, mem, node, hnode, found, settings, hsettings, hne⟩
    · rintro ⟨-, other, hother, own, hown, hfound, settings', hsettings', hne⟩
      rcases others other hother with rfl | hreport
      · -- the same type has the same schema
        have hsame := Except.ok.inj (found.symm.trans hfound)
        have hschema : node.schema = own.schema := congrArg (·.info.schema) hsame
        have hkey : node.typeKey = own.typeKey := congrArg (·.info.typeKey) hsame
        rw [← hschema, ← hkey, hsettings] at hsettings'
        exact Except.ok.inj hsettings' ▸ hne
      · exact absurd hreport.found (report_ne_constructor hown hfound)

/-- What a layer inside a module is bound to is code of a single line, written under the settings
    for an attribute. -/
theorem exists_emit_of_boundPart {index : Nat} {known : List String} {layer : Layer}
    {bound : String × String}
    (h : Module.boundPart index known (layer.part registry.resolve) = .ok bound) :
    ∃ plugin code, registry.resolve layer.type = .ok plugin ∧
      plugin.emit (.ofEntries (Module.boundSettings plugin.info (layer.settings.getD [])))
        (layer.child.inside registry.resolve) = .ok code ∧
      height code.toList ≤ 1 ∧ bound.2 = Module.trimmed code := by
  obtain ⟨-, -, info, code, hinfo, hcode, hline, hbound⟩ := Module.boundPart_eq_ok.1 h
  rw [Layer.part_codeUnder, Layer.part_layer] at hcode
  obtain ⟨plugin, hplugin, hemit⟩ := Result.bind_eq_ok.1 hcode
  have hfound := Result.mapError_eq_ok.1 hplugin
  rw [Layer.part_info, hfound] at hinfo
  obtain rfl : plugin.info = info := Except.ok.inj hinfo
  refine ⟨plugin, code, hfound, hemit, Fragment.height_le_one ?_, hbound⟩
  unfold Module.trimmed at hline
  rw [String.contains_char_eq, String.toList_ofList] at hline
  exact of_decide_eq_false hline

/-- What a layer inside a module is bound to. -/
theorem binds_of_boundPart {index : Nat} {known : List String} {layer : Layer}
    {bound : String × String}
    (h : Module.boundPart index known (layer.part registry.resolve) = .ok bound) :
    Binds layer bound.2 := by
  obtain ⟨plugin, code, hfound, hemit, hheight, hbound⟩ := exists_emit_of_boundPart h
  rw [hbound]
  rcases cases_of_height_le_one plugin (mem_builtins_of_resolve hfound) _ _ _ hemit hheight with
    ⟨node, hnode, rfl⟩ | ⟨rfl, -, rfl⟩ | rfl
  · have hother := isPipeline_of_constructor hnode hfound
    have hmem : layer ∈ leaves layer := leaves_of_other hother ▸ List.mem_cons_self
    refine binds_of_emit_call hmem hnode hfound hemit fun settings hsettings => ?_
    refine iff_of_false (fun hne => hne (variableName_of_boundSettings hnode hsettings)) ?_
    rintro ⟨hpipeline, -⟩
    rw [hother] at hpipeline
    exact absurd hpipeline nofun
  · refine binds_nothing fun leaf hleaf => ?_
    rw [leaves_of_other (isPipeline_of_resolve hfound), List.mem_singleton] at hleaf
    rw [hleaf, hfound]
  · have hpipeline := isPipeline_iff.2 hfound
    apply IsLineOf.binds hpipeline
    rw [leaves_of_pipeline hpipeline]
    exact Pipeline.isLineOf_of_emit (fun inner _ => isLineOf_of_height_le_one inner)
      (Child.inside_parts _ _) (Child.inside_metadata _ _) hemit hheight

/-- What the layers inside a module are bound to, one by one. -/
theorem binds_of_boundParts {index : Nat} {known : List String} {layers : List Layer}
    {bound : List (String × String)}
    (h : Module.boundParts index known (Layer.parts registry.resolve layers) = .ok bound) :
    List.Forall₂ (fun layer (b : String × String) => Binds layer b.2) layers bound := by
  induction layers generalizing index known bound with
  | nil =>
    obtain rfl := Except.ok.inj h
    exact .nil
  | cons layer rest ih =>
    obtain ⟨first, others, hfirst, hothers, rfl⟩ := Module.boundParts_cons_eq_ok.1 h
    exact .cons (binds_of_boundPart hfirst) (ih hothers)

/-! ### The constructor of a module -/

namespace Module

/-- The names and the expressions of attributes stand on single lines. -/
theorem not_mem_binding {index : Nat} {known : List String} {parts : List Part}
    {bound : List (String × String)} (h : boundParts index known parts = .ok bound) :
    ∀ b ∈ bound, '\n' ∉ (binding b).toList := by
  induction parts generalizing index known bound with
  | nil =>
    obtain rfl := Except.ok.inj h
    exact nofun
  | cons part rest ih =>
    obtain ⟨first, others, hfirst, hothers, rfl⟩ := boundParts_cons_eq_ok.1 h
    refine List.forall_mem_cons.2 ⟨?_, ih hothers⟩
    obtain ⟨hname, -, info, code, -, -, hline, hbound⟩ := boundPart_eq_ok.1 hfirst
    have hattribute := isAttribute_of_attributeName hname
    have hvalid : Text.isName first.1 = true := (Bool.and_eq_true_iff.1 hattribute).1
    rw [← hbound, String.contains_char_eq] at hline
    unfold binding
    simp only [String.toList_append, List.mem_append, not_or]
    exact ⟨⟨⟨by decide, Text.not_mem_of_isName hvalid (by decide)⟩, by decide⟩,
      of_decide_eq_false hline⟩

/-- The lines of the constructor of a module. -/
theorem lines_init {bound : List (String × String)}
    (h : ∀ b ∈ bound, '\n' ∉ (binding b).toList) :
    lines (Fragment.indent (stack ("super().__init__()" :: bound.map binding)) 2).toList =
      "        super().__init__()".toList ::
        bound.map fun b : String × String => ("        self." ++ b.1 ++ " = " ++ b.2).toList := by
  have hsingle : ∀ text ∈ "super().__init__()" :: bound.map binding, '\n' ∉ text.toList :=
    List.forall_mem_cons.2 ⟨by decide, List.forall_mem_map.2 h⟩
  have hfirst : Fragment.indentLine (2 : Nat) "super().__init__()".toList =
      "        super().__init__()".toList := by decide
  have hbinding : ∀ b : String × String, Fragment.indentLine (2 : Nat) (binding b).toList =
      ("        self." ++ b.1 ++ " = " ++ b.2).toList := by
    intro b
    have hsolid : isBlankText (binding b).toList = false := by
      simp only [binding, String.toList_append, Text.isBlankText_append]
      rfl
    rw [Fragment.indentLine_of_solid 2 hsolid]
    simp [binding, Fragment.indentWidth]
  refine (Fragment.lines_indent _ 2).trans ?_
  rw [Fragment.lines_stack (List.cons_ne_nil _ _), Fragment.flatMap_lines_of_not_mem hsingle,
    List.map_cons, List.map_cons, hfirst, List.map_map, List.map_map]
  exact congrArg _ (List.map_congr_left fun b _ => hbinding b)

/-- The constructor of a module holds the call of the superclass and a line for each attribute. -/
theorem blockBelow?_init {given : Value} {settings : Entries}
    (hsettings : schema.parseValue typeKey given = .ok settings) (flow : String)
    {bound : List (String × String)} (h : ∀ b ∈ bound, '\n' ∉ (binding b).toList) :
    blockBelow? (methodHeader "__init__" (params settings "constructorParams")).toList
        (lines (stack (texts settings bound flow)).toList) =
      some ("        super().__init__()".toList ::
        bound.map (fun b : String × String => ("        self." ++ b.1 ++ " = " ++ b.2).toList) ++
          [[]]) := by
  have hblock := blockBelow?_of_mem hsettings bound flow List.mem_cons_self
  rw [lines_init h] at hblock
  exact hblock

end Module

/-- What the attributes of a module with built-in layers are bound to.

    Each layer inside has a line in the constructor of the class, below the call of the superclass,
    and an empty line ends the constructor. The right-hand side of this line is blank exactly if all
    leaves of the layer are reports, and an assignment exactly if the layer is a pipeline with a
    leaf that assigns to a variable. Otherwise it is a call of the constructor of a leaf. -/
theorem binds_of_emit {given : Value} {inside : Inside} {layers : List Layer} {code : String}
    (hinside : inside.parts = .ok (Layer.parts registry.resolve layers))
    (h : Module.emit given inside = .ok code) :
    ∃ settings bound, Module.schema.parseValue Module.typeKey given = .ok settings ∧
      blockBelow? (methodHeader "__init__" (Module.params settings "constructorParams")).toList
          (lines code.toList) =
        some ("        super().__init__()".toList ::
          bound.map (fun b : String × String => ("        self." ++ b.1 ++ " = " ++ b.2).toList) ++
            [[]]) ∧
      List.Forall₂ (fun layer (b : String × String) => Binds layer b.2) layers bound := by
  obtain ⟨settings, hsettings, -⟩ := Result.bind_eq_ok.1 h
  obtain ⟨parts, bound, flow, hparts, hbound, -, rfl⟩ := Module.exists_of_emit hsettings h
  obtain rfl := Except.ok.inj (hinside.symm.trans hparts)
  refine ⟨settings, bound, hsettings, ?_, binds_of_boundParts hbound⟩
  exact Module.blockBelow?_init hsettings flow (Module.not_mem_binding hbound)

/-! ### Layers that are bound to no expression -/

/-- The settings of a module, if none are given. -/
def plainModule : Entries :=
  [("className", .str "NeuralNetwork"), ("constructorParams", .tuple []),
   ("forwardParams", .tuple [.str "x"]), ("dataFlow", .str "")]

theorem Module.parseValue_plainModule : schema.parseValue typeKey .null = .ok plainModule := by cbv

/-- A module with a single layer is written if the layer is bound. -/
theorem Module.emit_one {layer : Layer} {bound : String × String}
    (h : boundPart 0 [] (layer.part registry.resolve) = .ok bound) :
    emit .null ((Child.one layer).inside registry.resolve) =
      .ok (stack (texts plainModule [bound] (chain plainModule [bound.1]))) := by
  have hbound : boundParts 0 [] [layer.part registry.resolve] = .ok [bound] :=
    boundParts_cons_eq_ok.2 ⟨bound, [], h, rfl, rfl⟩
  rw [emit_eq parseValue_plainModule rfl hbound, forward_eq]
  rfl

/-- What a layer inside a module is bound to, by its plugin. -/
theorem Module.boundPart_of_emit {resolve : Resolver} (layer : Layer) {plugin : Plugin}
    (hplugin : resolve layer.type = .ok plugin) {index : Nat} {known : List String}
    {name code : String} (hname : attributeName index (layer.settings.getD []) = .ok name)
    (hnew : known.contains name = false)
    (hcode : plugin.emit (.ofEntries (boundSettings plugin.info (layer.settings.getD [])))
      (layer.child.inside resolve) = .ok code)
    (hline : (trimmed code).contains '\n' = false) :
    boundPart index known (layer.part resolve) = .ok (name, trimmed code) := by
  refine boundPart_eq_ok.2 ⟨?_, hnew, plugin.info, code, ?_, ?_, hline, rfl⟩
  · rw [Layer.part_layer]
    exact hname
  · rw [Layer.part_info, hplugin]
    rfl
  · rw [Layer.part_codeUnder, Layer.part_layer, hplugin]
    exact hcode

/-- A layer with a variable. -/
def assignedLayer : Layer := .mk "ReLU" (some [("variableName", .str "act")]) .none

/-- A pipeline without import lines around this layer. -/
def assigningLayer : Layer :=
  .mk "Pipeline" (some [("includeImports", .bool false)]) (.one assignedLayer)

/-- What the settings of this pipeline are when they are validated. -/
def plainPipeline : Entries :=
  [("includeImports", .bool false), ("datasetVariable", .str "dataset"),
   ("modelVariable", .str "model")]

theorem parseValue_plainPipeline :
    Pipeline.schema.parseValue Pipeline.typeKey (.ofEntries [("includeImports", .bool false)]) =
      .ok plainPipeline := by
  refine Schema.parseValue_of_checked _ (by decide) (by decide) ?_
  exact .cons ⟨rfl, rfl⟩ (.cons ⟨rfl, by cbv⟩ (.cons ⟨rfl, by cbv⟩ .nil))

theorem sectionOf_assignedLayer :
    Pipeline.sectionOf plainPipeline (assignedLayer.part registry.resolve) =
      .ok (some "act = torch.nn.ReLU()") := by
  have hfound : registry.resolve "ReLU" = .ok relu.plugin :=
    @resolve_of_mem_builtins relu.plugin (by simp [builtins])
  have hinfo : (assignedLayer.part registry.resolve).info = .ok relu.info := by
    rw [Layer.part_info]
    exact congrArg _ hfound
  -- what is inside is not looked at, and may be anything that is empty
  have hemit : ∀ inside : Inside, inside.given = false →
      relu.emit (.ofEntries [("variableName", .str "act")]) inside =
        .ok "act = torch.nn.ReLU()" := by
    rintro ⟨given, parts, metadata⟩ rfl
    cbv
  have hcode : (assignedLayer.part registry.resolve).code = .ok "act = torch.nn.ReLU()" := by
    unfold Part.code
    rw [Layer.part_codeUnder]
    exact Result.bind_eq_ok.2 ⟨relu.plugin, Result.mapError_eq_ok.2 hfound, hemit _ rfl⟩
  exact Pipeline.sectionOf_of_code hcode hinfo rfl rfl (by decide)

theorem boundPart_assigningLayer :
    Module.boundPart 0 [] (assigningLayer.part registry.resolve) =
      .ok ("layer_0", Module.trimmed "act = torch.nn.ReLU()") := by
  have hfound : registry.resolve "Pipeline" = .ok Pipeline.plugin :=
    @resolve_of_mem_builtins Pipeline.plugin (by simp [builtins])
  have hcode : Pipeline.emit (.ofEntries (Module.boundSettings Pipeline.info
      [("includeImports", .bool false)])) ((Child.one assignedLayer).inside registry.resolve) =
        .ok "act = torch.nn.ReLU()" := by
    refine Result.bind_eq_ok.2 ⟨plainPipeline, parseValue_plainPipeline, ?_⟩
    refine Result.bind_eq_ok.2 ⟨[assignedLayer.part registry.resolve], rfl, ?_⟩
    refine Result.bind_eq_ok.2 ⟨[some "act = torch.nn.ReLU()"], ?_, rfl⟩
    exact Result.mapM_cons_eq_ok.2 ⟨_, [], sectionOf_assignedLayer, rfl, rfl⟩
  have hname : Module.attributeName 0 [("includeImports", .bool false)] = .ok "layer_0" := by cbv
  have hline : (Module.trimmed "act = torch.nn.ReLU()").contains '\n' = false := by cbv
  exact Module.boundPart_of_emit assigningLayer hfound hname rfl hcode hline

/-- A layer with a variable in a pipeline is assigned to it, and the assignment is bound. -/
theorem binds_of_emit_assigning : ∃ code,
    Module.emit .null ((Child.one assigningLayer).inside registry.resolve) = .ok code ∧
      ∃ settings bound, Module.schema.parseValue Module.typeKey .null = .ok settings ∧
        blockBelow? (methodHeader "__init__" (Module.params settings "constructorParams")).toList
            (lines code.toList) =
          some ("        super().__init__()".toList ::
            bound.map (fun b : String × String =>
              ("        self." ++ b.1 ++ " = " ++ b.2).toList) ++ [[]]) ∧
        List.Forall₂ (fun layer (b : String × String) => Binds layer b.2) [assigningLayer] bound :=
  have hcode := Module.emit_one boundPart_assigningLayer
  ⟨_, hcode, binds_of_emit rfl hcode⟩

/-- A report under no condition. -/
def idleLayer : Layer := .mk "ReportLoss" (some [("reportCondition", .str "")]) .none

/-- What its settings are when they are validated. -/
def idleReport : Entries :=
  [("reportCondition", .str ""),
   ("reportStatements", .str ("last_loss = running_loss / 1000\n" ++
     "print(f\"  batch \x7bbatch_no + 1\x7d loss: \x7blast_loss\x7d\")")),
   ("resetRunningLoss", .bool true)]

theorem parseValue_idleReport :
    Report.schema.parseValue Report.typeKey (.ofEntries [("reportCondition", .str "")]) =
      .ok idleReport := by
  refine Schema.parseValue_of_checked _ (by decide) (by decide) ?_
  exact .cons ⟨rfl, rfl⟩ (.cons ⟨rfl, rfl⟩ (.cons ⟨rfl, rfl⟩ .nil))

theorem boundPart_idleLayer :
    Module.boundPart 0 [] (idleLayer.part registry.resolve) = .ok ("layer_0", "") := by
  have hfound : registry.resolve "ReportLoss" = .ok Report.plugin :=
    @resolve_of_mem_builtins Report.plugin (by simp [builtins])
  have hcode : Report.emit (.ofEntries (Module.boundSettings Report.info
      [("reportCondition", .str "")])) (Child.none.inside registry.resolve) = .ok "" := by
    refine emit_eq_ok.2 ⟨rfl, idleReport, parseValue_idleReport, ?_⟩
    exact Report.emitValid_eq_ok.2 (.inl ⟨.inl rfl, rfl⟩)
  have hname : Module.attributeName 0 [("reportCondition", .str "")] = .ok "layer_0" := by cbv
  have hline : (Module.trimmed "").contains '\n' = false := by cbv
  have htrimmed : Module.trimmed "" = "" := by cbv
  have hbound := @Module.boundPart_of_emit _ idleLayer _ hfound 0 [] _ _ hname rfl hcode hline
  rwa [htrimmed] at hbound

/-- The attribute for a report that is left out is bound to nothing. -/
theorem emit_idleLayer : ∃ code,
    Module.emit .null ((Child.one idleLayer).inside registry.resolve) = .ok code ∧
      blockBelow? "    def __init__(self):".toList (lines code.toList) =
        some ["        super().__init__()".toList, "        self.layer_0 = ".toList, []] := by
  have hheader : methodHeader "__init__" (Module.params plainModule "constructorParams") =
      "    def __init__(self):" := by decide
  have hline : ("        self." ++ "layer_0" ++ " = " ++ "").toList =
      "        self.layer_0 = ".toList := by decide
  have hblock := Module.blockBelow?_init Module.parseValue_plainModule
    (Module.chain plainModule ["layer_0"]) (List.forall_mem_singleton.2 (by decide) :
      ∀ b ∈ [("layer_0", "")], '\n' ∉ (Module.binding b).toList)
  rw [hheader, List.map_singleton, hline] at hblock
  exact ⟨_, Module.emit_one boundPart_idleLayer, hblock⟩

end LayerGraph.Node
