import LayerGraph.Proofs.Node.Heights

/-! # The leaves of pipelines

    The *leaves* of a layer are what is left when pipelines are opened, at every depth. A pipeline
    adds nothing of its own to the code of its leaves but import lines and gaps, and every
    constructor node needs an import line. So a pipeline writes code of a single line in two cases
    only: all its leaves are reports that are left out, and then there is no code; or just one is
    not, and then it is a constructor node, whose code is that of the pipeline
    (`isLineOf_of_height_le_one`).
-/

namespace LayerGraph

open Fragment (height)
open Text (isBlankText)

/-! ### Calls -/

namespace ConstructorNode

/-- A call of the constructor of a node. -/
def callText (node : ConstructorNode) (arguments : String) : String :=
  node.callee ++ "(" ++ arguments ++ ")"

section emit
variable {node : ConstructorNode} {given : Value} {inside : Inside} {code : String}

/-- The code of a node is a call, with the start of an assignment in front of it. -/
theorem exists_of_emit (h : node.emit given inside = .ok code) :
    ∃ settings arguments, node.schema.parseValue node.typeKey given = .ok settings ∧
      code = assignment settings ++ node.callText arguments := by
  obtain ⟨_, _, hrest⟩ := Result.bind_eq_ok.1 h
  obtain ⟨settings, hsettings, _⟩ := Result.bind_eq_ok.1 hrest
  obtain ⟨arguments, -, hcode⟩ := emitValid_eq_ok (emitValid_of_emit hsettings h)
  refine ⟨settings, arguments, hsettings, String.toList_inj.1 ?_⟩
  rw [hcode]
  simp [callText]

variable (hnode : node ∈ Node.constructors)
include hnode

/-- The variable of a node is null or a name. -/
theorem assignment_of_parseValue {settings : Entries}
    (h : node.schema.parseValue node.typeKey given = .ok settings) :
    (settings.get? "variableName" = some .null ∧ assignment settings = "") ∨
      ∃ name, settings.get? "variableName" = some (.str name) ∧ Text.isName name = true ∧
        assignment settings = name ++ " = " := by
  have hlegible := isLegible_of_mem_constructors node hnode
  obtain ⟨target, htarget, hkey, hshape⟩ := hlegible.target
  obtain ⟨v, hv, hfits⟩ := (Schema.fits_of_parseValue h).get? hlegible.keys htarget
  rw [hkey] at hv
  rw [hshape] at hfits
  rcases assignment_cases hfits hv with ⟨rfl, hnone⟩ | ⟨name, rfl, hname, htext⟩
  · exact .inl ⟨hv, hnone⟩
  · refine .inr ⟨name, hv, hname, String.toList_inj.1 ?_⟩
    rw [htext, String.toList_append]
    rfl

/-- The code of a node neither begins nor ends with a blank. -/
theorem isBlank_ends_of_emit (h : node.emit given inside = .ok code) :
    (∃ c, code.toList.head? = some c ∧ Text.isBlank c = false) ∧
      code.toList.getLast? = some ')' := by
  obtain ⟨settings, arguments, hsettings, rfl⟩ := exists_of_emit h
  have hlast : (node.callText arguments).toList =
      node.callee.toList ++ '(' :: arguments.toList ++ [')'] := by simp [callText]
  refine ⟨?_, ?_⟩
  · rcases assignment_of_parseValue hnode hsettings with ⟨-, hnone⟩ | ⟨name, -, hname, htext⟩
    · -- without a variable the callee is in front
      have hcallee : ∀ node ∈ Node.constructors,
          (node.callee.toList.head?.any (!Text.isBlank ·)) = true := by decide
      obtain ⟨c, hc, hsolid⟩ := (Option.any_eq_true _ _).1 (hcallee node hnode)
      refine ⟨c, ?_, by simpa using hsolid⟩
      rw [hnone, String.empty_append, hlast, List.append_assoc, List.head?_append, hc]
      rfl
    · cases hcs : name.toList with
      | nil =>
        obtain rfl := String.toList_eq_nil_iff.1 hcs
        exact absurd hname (by decide)
      | cons c rest =>
        have hpart := Text.isIdentifierPart_of_isName hname c (hcs ▸ List.mem_cons_self)
        refine ⟨c, ?_, Text.isBlank_of_isIdentifierPart hpart⟩
        rw [htext, String.toList_append, String.toList_append, hcs]
        rfl
  · rw [String.toList_append, hlast, ← List.append_assoc]
    exact List.getLast?_concat

/-- Trimming leaves the code of a node as it is. -/
theorem trimWhile_of_emit (h : node.emit given inside = .ok code) {p : Char → Bool}
    (hp : ∀ c, p c = true → Text.isBlank c = true) :
    Text.trimWhile p code.toList = code.toList := by
  obtain ⟨⟨first, hfirst, hsolid⟩, hlast⟩ := isBlank_ends_of_emit hnode h
  have hkept : ∀ c, Text.isBlank c = false → p c = false := fun c hc =>
    Bool.eq_false_iff.2 fun hpc => by rw [hp c hpc] at hc; exact absurd hc nofun
  apply Text.trimWhile_of_ends
  · intro c hc
    rw [hfirst] at hc
    exact hkept c (Option.some.inj hc ▸ hsolid)
  · intro c hc
    rw [hlast] at hc
    exact hkept c (Option.some.inj hc ▸ by decide)

theorem height_pos_of_emit (h : node.emit given inside = .ok code) : 0 < height code.toList := by
  obtain ⟨⟨first, hfirst, hsolid⟩, -⟩ := isBlank_ends_of_emit hnode h
  obtain ⟨rest, hrest⟩ := List.head?_eq_some_iff.1 hfirst
  apply Fragment.height_pos
  rw [hrest]
  show (Text.isBlank first && _) = false
  rw [hsolid, Bool.false_and]

end emit

end ConstructorNode

namespace Node

/-! ### Leaves -/

/-- Whether a type is that of pipelines. -/
def isPipeline (type : String) : Bool :=
  match registry.resolve type with
  | .ok plugin => plugin.info.typeKey == Pipeline.typeKey
  | .error _ => false

theorem isPipeline_of_resolve {type : String} {plugin : Plugin}
    (h : registry.resolve type = .ok plugin) :
    isPipeline type = (plugin.info.typeKey == Pipeline.typeKey) := by
  unfold isPipeline
  rw [h]

theorem isPipeline_iff {type : String} :
    isPipeline type = true ↔ registry.resolve type = .ok Pipeline.plugin := by
  have hkeys : ∀ plugin ∈ builtins, plugin.info.typeKey = Pipeline.typeKey →
      plugin = Pipeline.plugin := by
    apply forall_mem_builtins
    case constructor =>
      intro node hnode hkey
      have hothers : ∀ node ∈ constructors, node.typeKey ≠ Pipeline.typeKey := by decide
      exact absurd hkey (hothers node hnode)
    case pipeline => exact fun _ => rfl
    all_goals exact fun hkey => absurd hkey (by decide)
  cases hfound : registry.resolve type with
  | error error =>
    unfold isPipeline
    rw [hfound]
    exact ⟨nofun, nofun⟩
  | ok plugin =>
    rw [isPipeline_of_resolve hfound, beq_iff_eq, Except.ok.injEq]
    constructor
    · exact hkeys plugin (mem_builtins_of_resolve hfound)
    · rintro rfl
      rfl

/-- A constructor node is no pipeline. -/
theorem isPipeline_of_constructor {type : String} {node : ConstructorNode}
    (hnode : node ∈ constructors) (h : registry.resolve type = .ok node.plugin) :
    isPipeline type = false := by
  have hothers : ∀ node ∈ constructors, (node.typeKey == Pipeline.typeKey) = false := by decide
  rw [isPipeline_of_resolve h]
  exact hothers node hnode

mutual

/-- The layers that are left when pipelines are opened. -/
def leaves : Layer → List Layer
  | .mk type settings child =>
    if isPipeline type then leavesInside child else [.mk type settings child]

/-- The leaves of what a layer holds. -/
def leavesInside : Child → List Layer
  | .none => []
  | .one layer => leaves layer
  | .many layers => leavesOf layers

/-- The leaves of layers, in order. -/
def leavesOf : List Layer → List Layer
  | [] => []
  | layer :: rest => leaves layer ++ leavesOf rest

end

@[simp] theorem leavesOf_nil : leavesOf [] = [] := rfl

@[simp] theorem leavesOf_cons (layer : Layer) (rest : List Layer) :
    leavesOf (layer :: rest) = leaves layer ++ leavesOf rest := rfl

@[simp] theorem leavesOf_append (xs ys : List Layer) :
    leavesOf (xs ++ ys) = leavesOf xs ++ leavesOf ys := by
  induction xs with
  | nil => rfl
  | cons layer rest ih => rw [List.cons_append, leavesOf_cons, ih, leavesOf_cons, List.append_assoc]

theorem leavesInside_eq (child : Child) : leavesInside child = leavesOf child.layers := by
  cases child with
  | none => rfl
  | one layer => exact (List.append_nil _).symm
  | many layers => rfl

theorem leaves_of_pipeline {layer : Layer} (h : isPipeline layer.type = true) :
    leaves layer = leavesOf layer.child.layers := by
  obtain ⟨type, settings, child⟩ := layer
  unfold leaves
  exact (if_pos h).trans (leavesInside_eq child)

theorem leaves_of_other {layer : Layer} (h : isPipeline layer.type = false) :
    leaves layer = [layer] := by
  obtain ⟨type, settings, child⟩ := layer
  unfold leaves
  exact if_neg (Bool.eq_false_iff.1 h)

/-- A report with nothing inside. -/
structure IsReport (layer : Layer) : Prop where
  found : registry.resolve layer.type = .ok Report.plugin
  childless : layer.child.layers = []

/-- Code of a single line that leaves make: there is none, for all leaves are reports, or it is that
    of a constructor node, for all others are. -/
inductive IsLineOf (all : List Layer) : String → Prop where
  | nothing (reports : ∀ leaf ∈ all, IsReport leaf) : IsLineOf all ""
  | call {leaf : Layer} {node : ConstructorNode} {code : String} (mem : leaf ∈ all)
      (others : ∀ other ∈ all, other = leaf ∨ IsReport other) (constructor : node ∈ constructors)
      (found : registry.resolve leaf.type = .ok node.plugin)
      (written : (leaf.part registry.resolve).code = .ok code) : IsLineOf all code

/-- What is written by a leaf that is a constructor node is the code of this node. -/
theorem emit_of_code {leaf : Layer} {node : ConstructorNode} {code : String}
    (found : registry.resolve leaf.type = .ok node.plugin)
    (written : (leaf.part registry.resolve).code = .ok code) :
    node.emit (settingsValue leaf.settings) (leaf.child.inside registry.resolve) = .ok code := by
  unfold Part.code at written
  rw [Layer.part_codeUnder, Layer.part_layer, found] at written
  exact written

namespace IsLineOf
variable {all : List Layer} {code : String}

/-- Trimming line breaks leaves the line as it is. -/
theorem trimBreaks_eq (h : IsLineOf all code) : Fragment.trimBreaks code = code := by
  cases h with
  | nothing => rfl
  | call mem others hnode found written =>
    unfold Fragment.trimBreaks Text.trimBreaks
    rw [ConstructorNode.trimWhile_of_emit hnode (emit_of_code found written),
      String.ofList_toList]
    intro c hc
    rw [beq_iff_eq.1 hc]
    decide

/-- Leaves that write no line are reports. -/
theorem reports_of_height (h : IsLineOf all code) (hheight : height code.toList = 0) :
    ∀ leaf ∈ all, IsReport leaf := by
  cases h with
  | nothing reports => exact reports
  | call mem others hnode found written =>
    have hpos := ConstructorNode.height_pos_of_emit hnode (emit_of_code found written)
    exact absurd hheight (Nat.ne_of_gt hpos)

/-- Reports in front of the leaves add nothing. -/
theorem append_left {front : List Layer} (hfront : ∀ leaf ∈ front, IsReport leaf)
    (h : IsLineOf all code) : IsLineOf (front ++ all) code := by
  cases h with
  | nothing reports => exact .nothing (List.forall_mem_append.2 ⟨hfront, reports⟩)
  | call mem others hnode found written =>
    refine .call (List.mem_append_right _ mem) ?_ hnode found written
    exact List.forall_mem_append.2 ⟨fun leaf hleaf => .inr (hfront leaf hleaf), others⟩

/-- Reports behind the leaves add nothing. -/
theorem append_right {back : List Layer} (hback : ∀ leaf ∈ back, IsReport leaf)
    (h : IsLineOf all code) : IsLineOf (all ++ back) code := by
  cases h with
  | nothing reports => exact .nothing (List.forall_mem_append.2 ⟨reports, hback⟩)
  | call mem others hnode found written =>
    refine .call (List.mem_append_left _ mem) ?_ hnode found written
    exact List.forall_mem_append.2 ⟨others, fun leaf hleaf => .inr (hback leaf hleaf)⟩

end IsLineOf

/-! ### Import lines -/

/-- A visit comes to every leaf. -/
theorem mem_of_visit {layers : List Layer} {infos : List NodeInfo}
    (h : visit registry.resolve layers = .ok infos) {leaf : Layer} (hleaf : leaf ∈ leavesOf layers)
    {plugin : Plugin} (hplugin : registry.resolve leaf.type = .ok plugin) :
    plugin.info ∈ infos := by
  induction layers using visit.induct generalizing infos with
  | case1 => exact absurd hleaf List.not_mem_nil
  | case2 layer waiting ih =>
    rw [visit] at h
    obtain ⟨own, hown, h⟩ := Result.bind_eq_ok.1 h
    obtain ⟨others, hothers, h⟩ := Result.bind_eq_ok.1 h
    obtain rfl := Except.ok.inj h
    rw [leavesOf_append] at ih
    rcases List.mem_append.1 hleaf with hleaf | hleaf
    · cases hpipeline : isPipeline layer.type with
      | true =>
        rw [leaves_of_pipeline hpipeline] at hleaf
        exact List.mem_cons_of_mem _ (ih hothers (List.mem_append_left _ hleaf))
      | false =>
        rw [leaves_of_other hpipeline, List.mem_singleton] at hleaf
        obtain rfl := Except.ok.inj ((hleaf ▸ hplugin).symm.trans hown)
        exact List.mem_cons_self
    · exact List.mem_cons_of_mem _ (ih hothers (List.mem_append_right _ hleaf))

/-- Reports need no import lines, and pipelines of reports do not either. -/
theorem imports_of_visit {layers : List Layer} {infos : List NodeInfo}
    (h : visit registry.resolve layers = .ok infos)
    (hreports : ∀ leaf ∈ leavesOf layers, IsReport leaf) : ∀ info ∈ infos, info.imports = [] := by
  induction layers using visit.induct generalizing infos with
  | case1 =>
    rw [visit] at h
    obtain rfl := Except.ok.inj h
    exact nofun
  | case2 layer waiting ih =>
    rw [visit] at h
    obtain ⟨own, hown, h⟩ := Result.bind_eq_ok.1 h
    obtain ⟨others, hothers, h⟩ := Result.bind_eq_ok.1 h
    obtain rfl := Except.ok.inj h
    obtain ⟨hlayer, hwaiting⟩ := List.forall_mem_append.1 hreports
    rw [leavesOf_append] at ih
    rw [List.forall_mem_cons]
    cases hpipeline : isPipeline layer.type with
    | true =>
      rw [leaves_of_pipeline hpipeline] at hlayer
      obtain rfl := Except.ok.inj (hown.symm.trans (isPipeline_iff.1 hpipeline))
      exact ⟨rfl, ih hothers (List.forall_mem_append.2 ⟨hlayer, hwaiting⟩)⟩
    | false =>
      rw [leaves_of_other hpipeline] at hlayer
      obtain ⟨hfound, hchildless⟩ := hlayer layer List.mem_cons_self
      obtain rfl := Except.ok.inj (hown.symm.trans hfound)
      refine ⟨rfl, ih hothers (List.forall_mem_append.2 ⟨?_, hwaiting⟩)⟩
      rw [hchildless]
      exact nofun

/-- A single line stands below no import lines. -/
theorem IsLineOf.withImports_eq {layers : List Layer} {code : String}
    (h : IsLineOf (leavesOf layers) code) {infos : List NodeInfo}
    (hinfos : visit registry.resolve layers = .ok infos)
    (hheight : height (Fragment.withImports code (Metadata.ofInfos infos).imports).toList ≤ 1) :
    Fragment.withImports code (Metadata.ofInfos infos).imports = code := by
  cases h with
  | nothing reports =>
    have hnone : infos.flatMap (·.imports) = [] :=
      List.flatMap_eq_nil_iff.2 (imports_of_visit hinfos reports)
    unfold Metadata.ofInfos
    dsimp only
    rw [hnone]
    rfl
  | @call leaf node _ mem others hnode found written =>
    have hpos := ConstructorNode.height_pos_of_emit hnode (emit_of_code found written)
    -- the import line that the call needs is a second one
    have hneeds : ∀ node ∈ constructors, ∃ line ∈ node.imports,
        isBlankText line.toList = false := by decide
    obtain ⟨line, hline, hsolid⟩ := hneeds node hnode
    have hmem : line ∈ (Metadata.ofInfos infos).imports :=
      Text.mem_distinct.2 (List.mem_flatMap.2 ⟨_, mem_of_visit hinfos mem found, hline⟩)
    have hheader := Fragment.height_le_height_stack hmem
    have hsecond := Fragment.height_pos hsolid
    rw [Fragment.height_withImports] at hheight
    omega

/-! ### Sections -/

namespace Pipeline

/-- An instance of a class stands below the section, one empty line apart. -/
theorem renderSource_eq_ok {text variableName code : String} {className : Value} :
    renderSource typeKey template
        [("section", .str text), ("variable", .str variableName), ("class_name", className)] =
        .ok code ↔
      ∃ shown, className.display = .ok shown ∧
        code = text ++ "\n\n" ++ (variableName ++ " = " ++ shown ++ "()") := by
  have hrendered : ∀ shown, className.display = .ok shown →
      renderSource typeKey template
        [("section", .str text), ("variable", .str variableName), ("class_name", className)] =
        .ok (text ++ "\n\n" ++ (variableName ++ " = " ++ shown ++ "()")) := by
    intro shown hshown
    let texts (name : String) : String :=
      if name = "section" then text else if name = "variable" then variableName else shown
    have htexts : ∀ name ∈ ["section", "variable", "class_name"],
        ∃ v, Entries.get? [("section", .str text), ("variable", .str variableName),
          ("class_name", className)] name = some v ∧ v.display = .ok (texts name) := by
      have htext : ∀ s : String, (Value.str s).display = .ok s := fun _ => rfl
      simp [texts, Entries.get?, List.lookup, hshown, htext]
    rw [renderSource_shown Pipeline.segments _ htexts]
    simp [texts, Segment.filled, String.join_cons, String.append_assoc]
  constructor
  · intro h
    -- the class has a text, since the third segment has
    have hsegments := h
    rw [renderSource_eq Pipeline.segments,
      Template.render_eq (by simp [Entries.get?, List.lookup])] at hsegments
    obtain ⟨parts, hparts, -⟩ := Result.map_eq_ok.1 (Result.mapError_eq_ok.1 hsegments)
    obtain ⟨part, hpart⟩ := Result.mapM_isOk_iff.1 ⟨parts, hparts⟩ ⟨" = ", some "class_name"⟩
      (by simp)
    obtain ⟨shown, hshown, -⟩ := Result.bind_eq_ok.1 hpart
    exact ⟨shown, hshown, Except.ok.inj (h.symm.trans (hrendered shown hshown))⟩
  · rintro ⟨shown, hshown, rfl⟩
    exact hrendered shown hshown

/-- A part of a category without instances has its code as its section. -/
theorem sectionOf_of_code {settings : Entries} {part : Part} {code : String}
    {info : NodeInfo} (hcode : part.code = .ok code) (hinfo : part.info = .ok info)
    (hvariable : instanceVariable settings info.category = none)
    (hsolid : Fragment.isBlank code = false) (htrimmed : Fragment.trimBreaks code = code) :
    sectionOf settings part = .ok (some code) := by
  unfold sectionOf
  refine Result.bind_eq_ok.2 ⟨code, hcode, ?_⟩
  dsimp only
  rw [htrimmed, hsolid, if_neg Bool.false_ne_true]
  refine Result.bind_eq_ok.2 ⟨info, Result.mapError_eq_ok.2 hinfo, ?_⟩
  rw [hvariable]
  rfl

/-- A section is the code of its part without line breaks at its ends, with an instance of a class
    below it if there is a variable for one. A part without code has none. -/
theorem sectionOf_eq_ok {settings : Entries} {part : Part} {text? : Option String}
    (h : sectionOf settings part = .ok text?) :
    ∃ code, part.code = .ok code ∧
      ((Fragment.isBlank code = true ∧ text? = none) ∨
        Fragment.isBlank code = false ∧ ∃ info, part.info = .ok info ∧
          (text? = some (Fragment.trimBreaks code) ∨
            ∃ variableName className shown,
              instanceVariable settings info.category = some variableName ∧
              className? info (part.layer.settings.getD []) = some className ∧
              className.display = .ok shown ∧
              text? = some (Fragment.trimBreaks code ++ "\n\n" ++
                (variableName ++ " = " ++ shown ++ "()")))) := by
  obtain ⟨code, hcode, h⟩ := Result.bind_eq_ok.1 h
  have hblank : Fragment.isBlank (Fragment.trimBreaks code) = Fragment.isBlank code := by
    unfold Fragment.isBlank Fragment.trimBreaks
    rw [String.toList_ofList, Text.isBlankText_trimBreaks]
  refine ⟨code, hcode, ?_⟩
  dsimp only at h
  rw [hblank] at h
  split at h
  · next hnone => exact .inl ⟨hnone, (Except.ok.inj h).symm⟩
  · next hsolid =>
    obtain ⟨info, hinfo, h⟩ := Result.bind_eq_ok.1 h
    refine .inr ⟨Bool.eq_false_iff.2 hsolid, info, Result.mapError_eq_ok.1 hinfo, ?_⟩
    split at h
    · next variableName className hvariable hclass =>
      obtain ⟨text, htext, rfl⟩ := Result.map_eq_ok.1 h
      obtain ⟨shown, hshown, rfl⟩ := renderSource_eq_ok.1 htext
      exact .inr ⟨variableName, className, shown, hvariable, hclass, hshown, rfl⟩
    · exact .inl (Except.ok.inj h).symm

/-- Only data sets and models have instances. -/
theorem category_of_instanceVariable {settings : Entries} {category : Category} {name : String}
    (h : instanceVariable settings category = some name) :
    category = .dataset ∨ category = .model := by
  unfold instanceVariable at h
  split at h
  · next hdataset => exact .inl hdataset
  · split at h
    · next hmodel => exact .inr hmodel
    · exact absurd h nofun

/-- A part without code has no section. The section of another is its code, with an instance of the
    class below it for some data sets and models. -/
theorem sectionOf_cases {settings : Entries} {part : Part} {text? : Option String}
    (h : sectionOf settings part = .ok text?) :
    ∃ code, part.code = .ok code ∧
      ((text? = none ∧ height code.toList = 0) ∨
        ∃ text, text? = some text ∧ 0 < height code.toList ∧
          height code.toList ≤ height text.toList ∧
          (text = Fragment.trimBreaks code ∨
            ∃ info, part.info = .ok info ∧
              (info.category = .dataset ∨ info.category = .model))) := by
  obtain ⟨code, hcode, ⟨hblank, rfl⟩ | ⟨hsolid, info, hinfo, hcases⟩⟩ := sectionOf_eq_ok h
  · exact ⟨code, hcode, .inl ⟨rfl, Fragment.height_eq_zero_iff.2 hblank⟩⟩
  · have hheight : height (Fragment.trimBreaks code).toList = height code.toList := by
      unfold Fragment.trimBreaks
      rw [String.toList_ofList, Fragment.height_trimBreaks]
    refine ⟨code, hcode, .inr ?_⟩
    rcases hcases with rfl | ⟨_, _, shown, hvariable, -, -, rfl⟩
    · exact ⟨_, rfl, Fragment.height_pos hsolid, Nat.le_of_eq hheight.symm, .inl rfl⟩
    · refine ⟨_, rfl, Fragment.height_pos hsolid, ?_,
        .inr ⟨info, hinfo, category_of_instanceVariable hvariable⟩⟩
      rw [String.toList_append, String.toList_append, List.append_assoc]
      show _ ≤ height (_ ++ '\n' :: _)
      rw [Fragment.height_append_break, hheight]
      exact Nat.le_add_right _ _

/-- Without a line there are no sections. -/
theorem eq_nil_of_height {settings : Entries} {parts : List Part} {sections : List (Option String)}
    (h : parts.mapM (sectionOf settings) = .ok sections)
    (hheight : height ("\n\n".intercalate (sections.filterMap id)).toList = 0) :
    sections.filterMap id = [] := by
  have hfull : ∀ text? ∈ sections, ∀ text, text? = some text → 0 < height text.toList := by
    refine Result.forall_mem_of_mapM h fun part _ text? hpart text htext => ?_
    obtain ⟨code, -, ⟨hnone, -⟩ | ⟨own, hown, hpos, hle, -⟩⟩ := sectionOf_cases hpart
    · exact absurd (htext.symm.trans hnone) nofun
    · obtain rfl := Option.some.inj (htext.symm.trans hown)
      exact Nat.lt_of_lt_of_le hpos hle
  cases hkept : sections.filterMap id with
  | nil => rfl
  | cons text rest =>
    obtain ⟨text?, hmem, htext⟩ := List.mem_filterMap.1 (hkept ▸ List.mem_cons_self)
    have hpos := hfull text? hmem text htext
    rw [hkept, Fragment.height_spaced, List.map_cons, List.sum_cons] at hheight
    omega

/-- A section of a single line is the code of its layer. -/
theorem eq_trimBreaks_of_height {settings : Entries} {layer : Layer} {text : String}
    (h : sectionOf settings (layer.part registry.resolve) = .ok (some text))
    (hheight : height text.toList ≤ 1) :
    ∃ code, (layer.part registry.resolve).code = .ok code ∧ 0 < height code.toList ∧
      height code.toList ≤ 1 ∧ text = Fragment.trimBreaks code := by
  obtain ⟨code, hcode, ⟨hnone, -⟩ | ⟨own, hown, hpos, hle, hcases⟩⟩ := sectionOf_cases h
  · exact absurd hnone nofun
  · obtain rfl := Option.some.inj hown
    have hline := Nat.le_trans hle hheight
    refine ⟨code, hcode, hpos, hline, ?_⟩
    rcases hcases with htext | ⟨info, hinfo, hcategory⟩
    · exact htext
    · -- a data set and a model are higher than a single line
      unfold Part.code at hcode
      rw [Layer.part_codeUnder] at hcode
      obtain ⟨plugin, hplugin, hemit⟩ := Result.bind_eq_ok.1 hcode
      have hfound := Result.mapError_eq_ok.1 hplugin
      rw [Layer.part_info, hfound] at hinfo
      obtain rfl : plugin.info = info := Except.ok.inj hinfo
      have hconstructors : ∀ node ∈ constructors,
          node.category ≠ .dataset ∧ node.category ≠ .model := by decide
      rcases cases_of_height_le_one plugin (mem_builtins_of_resolve hfound) _ _ _ hemit hline with
        ⟨node, hnode, rfl⟩ | ⟨rfl, -, -⟩ | rfl
      · exact absurd hcategory (not_or.2 (hconstructors node hnode))
      · exact absurd hcategory (by decide)
      · exact absurd hcategory (by decide)

/-- Sections of a single line are the line that the leaves make. -/
theorem isLineOf_sections {settings : Entries} {layers : List Layer}
    (ih : ∀ layer ∈ layers, ∀ code, (layer.part registry.resolve).code = .ok code →
      height code.toList ≤ 1 → IsLineOf (leaves layer) code)
    {sections : List (Option String)}
    (h : (layers.map (·.part registry.resolve)).mapM (sectionOf settings) = .ok sections)
    (hheight : height ("\n\n".intercalate (sections.filterMap id)).toList ≤ 1) :
    IsLineOf (leavesOf layers) ("\n\n".intercalate (sections.filterMap id)) := by
  induction layers generalizing sections with
  | nil =>
    obtain rfl := Except.ok.inj h
    exact .nothing nofun
  | cons layer rest ihrest =>
    obtain ⟨ihlayer, ihothers⟩ := List.forall_mem_cons.1 ih
    rw [List.map_cons] at h
    obtain ⟨text?, others, hlayer, hothers, rfl⟩ := Result.mapM_cons_eq_ok.1 h
    rw [leavesOf_cons]
    cases text? with
    | none =>
      obtain ⟨code, hcode, ⟨-, hzero⟩ | ⟨_, hsome, -⟩⟩ := sectionOf_cases hlayer
      · have hline := ihlayer code hcode (hzero ▸ Nat.zero_le 1)
        exact (ihrest ihothers hothers hheight).append_left (hline.reports_of_height hzero)
      · exact absurd hsome nofun
    | some text =>
      have hsum : height text.toList +
          height ("\n\n".intercalate (others.filterMap id)).toList ≤ 1 := by
        rw [Fragment.height_spaced] at hheight ⊢
        exact hheight
      obtain ⟨code, hcode, hpos, hone, htext⟩ := eq_trimBreaks_of_height hlayer (by omega)
      have hline := ihlayer code hcode hone
      rw [hline.trimBreaks_eq] at htext
      subst htext
      -- nothing else has a section
      have hzero : height ("\n\n".intercalate (others.filterMap id)).toList = 0 := by omega
      have hback := (ihrest ihothers hothers (by omega)).reports_of_height hzero
      have hnone : others.filterMap id = [] := eq_nil_of_height hothers hzero
      have hkept : (some text :: others).filterMap id = [text] := congrArg (text :: ·) hnone
      rw [hkept, String.intercalate_singleton]
      exact hline.append_right hback

/-- A pipeline that writes a single line writes the line that its leaves make. -/
theorem isLineOf_of_emit {layers : List Layer}
    (ih : ∀ layer ∈ layers, ∀ code, (layer.part registry.resolve).code = .ok code →
      height code.toList ≤ 1 → IsLineOf (leaves layer) code) {given : Value} {inside : Inside}
    (hparts : inside.parts = .ok (layers.map (·.part registry.resolve)))
    (hmetadata : inside.metadata = collectMetadata registry.resolve layers) {code : String}
    (h : emit given inside = .ok code) (hheight : height code.toList ≤ 1) :
    IsLineOf (leavesOf layers) code := by
  obtain ⟨settings, -, h⟩ := Result.bind_eq_ok.1 h
  obtain ⟨parts, hown, h⟩ := Result.bind_eq_ok.1 h
  obtain rfl := Except.ok.inj (hparts.symm.trans (Result.mapError_eq_ok.1 hown))
  obtain ⟨sections, hsections, h⟩ := Result.bind_eq_ok.1 h
  dsimp only at h
  split at h
  · obtain ⟨metadata, hfound, h⟩ := Result.bind_eq_ok.1 h
    obtain rfl := Except.ok.inj h
    rw [hmetadata] at hfound
    obtain ⟨infos, hinfos, rfl⟩ := Result.map_eq_ok.1 (Result.mapError_eq_ok.1 hfound)
    have hbody := hheight
    rw [Fragment.height_withImports] at hbody
    have hline := isLineOf_sections ih hsections (Nat.le_trans (Nat.le_add_left _ _) hbody)
    rwa [hline.withImports_eq hinfos hheight]
  · obtain rfl := Except.ok.inj h
    exact isLineOf_sections ih hsections hheight

end Pipeline

/-- Code of a single line is what the leaves of the layer make. -/
theorem isLineOf_of_height_le_one (layer : Layer) :
    ∀ code, (layer.part registry.resolve).code = .ok code → height code.toList ≤ 1 →
      IsLineOf (leaves layer) code := by
  induction layer using Layer.induct with
  | inherits layer ih =>
    intro code hcode hheight
    have hemit := hcode
    unfold Part.code at hemit
    rw [Layer.part_codeUnder] at hemit
    obtain ⟨plugin, hplugin, hemit⟩ := Result.bind_eq_ok.1 hemit
    have hfound := Result.mapError_eq_ok.1 hplugin
    rcases cases_of_height_le_one plugin (mem_builtins_of_resolve hfound) _ _ _ hemit hheight with
      ⟨node, hnode, rfl⟩ | ⟨rfl, hgiven, rfl⟩ | rfl
    · rw [leaves_of_other (isPipeline_of_constructor hnode hfound)]
      refine .call List.mem_cons_self ?_ hnode hfound hcode
      exact fun other hother => .inl (List.mem_singleton.1 hother)
    · rw [Child.inside_given, Bool.not_eq_false', List.isEmpty_iff] at hgiven
      rw [leaves_of_other (isPipeline_of_resolve hfound)]
      exact .nothing (List.forall_mem_singleton.2 ⟨hfound, hgiven⟩)
    · rw [leaves_of_pipeline (isPipeline_iff.2 hfound)]
      exact Pipeline.isLineOf_of_emit ih (Child.inside_parts _ _) (Child.inside_metadata _ _) hemit
        hheight

end Node

end LayerGraph
