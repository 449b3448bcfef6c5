import LayerGraph.Proofs.Document.Forms
import LayerGraph.Proofs.Node.Imports
import LayerGraph.Proofs.Node.Nesting
import LayerGraph.Proofs.Setting.Normal
import Mathlib.Data.List.Count

/-! # Headers inside of code

    A pipeline that is asked to heads its code with the import lines that it needs. No other node
    type writes any, and a module, whose layers must be expressions, has no room for a pipeline that
    does. So an import line stands in the code of a layer exactly as often as there are pipelines in
    it that write it (`occurrences_code`), unless it is in code of the user's.
-/

namespace LayerGraph.Node

open Fragment (height occurrences stack)

/-! ### User code and headers -/

/-- The user's code in the settings of a layer, if they are accepted. -/
def userCodes (node : Layer) : List String :=
  match registry.resolve node.type with
  | .ok plugin =>
    match plugin.info.schema.parseValue plugin.info.typeKey (settingsValue node.settings) with
    | .ok settings => codesIn plugin.info.schema settings
    | .error _ => []
  | .error _ => []

/-- Whether a layer is a pipeline that is asked for import lines. -/
def writesHeader (node : Layer) : Bool :=
  isPipeline node.type &&
    match Pipeline.schema.parseValue Pipeline.typeKey (settingsValue node.settings) with
    | .ok settings => settings.flag "includeImports"
    | .error _ => false

/-- The import lines at the head of the code of a layer. -/
def header (node : Layer) : List String :=
  if writesHeader node then
    match Pipeline.importsOf registry.resolve node.child.layers with
    | .ok imports => imports
    | .error _ => []
  else []

/-- The import lines at the heads of the codes of layers, and of all layers inside them. -/
def headers (layers : List Layer) : List String := (Layer.preorders layers).flatMap header

theorem userCodes_of_resolve {node : Layer} {plugin : Plugin} {settings : Entries}
    (hfound : registry.resolve node.type = .ok plugin)
    (hsettings : plugin.info.schema.parseValue plugin.info.typeKey (settingsValue node.settings) =
      .ok settings) : userCodes node = codesIn plugin.info.schema settings := by
  unfold userCodes
  simp only [hfound, hsettings]

theorem header_of_not_writesHeader {node : Layer} (h : writesHeader node = false) :
    header node = [] := if_neg (Bool.eq_false_iff.1 h)

theorem header_of_writesHeader {node : Layer} (h : writesHeader node = true)
    {imports : List String}
    (himports : Pipeline.importsOf registry.resolve node.child.layers = .ok imports) :
    header node = imports := by
  unfold header
  rw [if_pos h, himports]

theorem writesHeader_of_resolve {node : Layer} {plugin : Plugin}
    (hfound : registry.resolve node.type = .ok plugin)
    (hother : plugin.info.typeKey ≠ Pipeline.typeKey) : writesHeader node = false := by
  unfold writesHeader
  rw [isPipeline_of_resolve hfound, beq_false_of_ne hother, Bool.false_and]

theorem writesHeader_of_parseValue {node : Layer}
    (hfound : registry.resolve node.type = .ok Pipeline.plugin) {settings : Entries}
    (hsettings : Pipeline.schema.parseValue Pipeline.typeKey (settingsValue node.settings) =
      .ok settings) : writesHeader node = settings.flag "includeImports" := by
  unfold writesHeader
  rw [isPipeline_iff.2 hfound, hsettings, Bool.true_and]

@[simp] theorem headers_nil : headers [] = [] := rfl

theorem headers_cons (layer : Layer) (rest : List Layer) :
    headers (layer :: rest) = header layer ++ headers layer.child.layers ++ headers rest := by
  unfold headers
  rw [Layer.preorders_cons, Layer.preorder_eq, List.flatMap_append, List.flatMap_cons]

theorem headers_append (xs ys : List Layer) : headers (xs ++ ys) = headers xs ++ headers ys := by
  unfold headers
  rw [Layer.preorders_append, List.flatMap_append]

theorem headers_singleton (layer : Layer) :
    headers [layer] = header layer ++ headers layer.child.layers := by
  rw [headers_cons, headers_nil, List.append_nil]

theorem headers_eq_nil {layers : List Layer} (h : ∀ layer ∈ layers, headers [layer] = []) :
    headers layers = [] := by
  induction layers with
  | nil => rfl
  | cons layer rest ih =>
    obtain ⟨hlayer, hrest⟩ := List.forall_mem_cons.1 h
    rw [← List.singleton_append, headers_append, hlayer, ih hrest, List.append_nil]

/-- There are no import lines inside of a layer that holds nothing. -/
theorem headers_of_childless {child : Child}
    (h : (child.inside registry.resolve).given = false) : headers child.layers = [] := by
  rw [Child.inside_given, Bool.not_eq_false', List.isEmpty_iff] at h
  rw [h, headers_nil]

/-! ### Code of a single line -/

namespace Pipeline

/-- The layers of a pipeline have codes, and none is higher than the body of the pipeline. -/
theorem exists_code_of_sections {settings : Entries} {layers : List Layer} {sections : List String}
    (h : sectionsOf registry.resolve settings layers = .ok sections) :
    ∀ layer ∈ layers, ∃ code, (layer.part registry.resolve).code = .ok code ∧
      height code.toList ≤ height ("\n\n".intercalate sections).toList := by
  induction layers generalizing sections with
  | nil => exact List.forall_mem_nil _
  | cons layer rest ih =>
    rw [← List.singleton_append, sectionsOf_append] at h
    obtain ⟨front, hfront, h⟩ := Result.bind_eq_ok.1 h
    obtain ⟨back, hback, h⟩ := Result.bind_eq_ok.1 h
    obtain rfl := Except.ok.inj h
    rw [sectionsOf_singleton] at hfront
    obtain ⟨text?, htext, rfl⟩ := Result.map_eq_ok.1 hfront
    rw [Fragment.height_spaced, List.map_append, List.sum_append, ← Fragment.height_spaced back]
    refine List.forall_mem_cons.2 ⟨?_, fun inner hinner => ?_⟩
    · obtain ⟨code, hcode, ⟨rfl, hzero⟩ | ⟨text, rfl, -, hle, -⟩⟩ := sectionOf_cases htext
      · exact ⟨code, hcode, hzero ▸ Nat.zero_le _⟩
      · refine ⟨code, hcode, Nat.le_add_right_of_le ?_⟩
        simpa using hle
    · obtain ⟨code, hcode, hle⟩ := ih hback inner hinner
      exact ⟨code, hcode, Nat.le_add_left_of_le hle⟩

end Pipeline

/-- Layers need the import lines that one of the types in them needs. -/
theorem Pipeline.mem_of_importsOf {resolve : Resolver} {layers : List Layer}
    {imports : List String} (h : importsOf resolve layers = .ok imports) {line : String} :
    line ∈ imports ↔ ∃ node ∈ Layer.preorders layers, ∃ plugin,
      resolve node.type = .ok plugin ∧ line ∈ plugin.info.imports := by
  obtain ⟨metadata, hmetadata, rfl⟩ := Result.map_eq_ok.1 h
  obtain ⟨infos, hinfos, rfl⟩ := Result.map_eq_ok.1 hmetadata
  rw [visit_eq_mapM] at hinfos
  refine (Text.mem_distinct.trans List.mem_flatMap).trans ?_
  constructor
  · rintro ⟨info, hinfo, hline⟩
    obtain ⟨node, hnode, hinfo⟩ := (Result.mem_of_mapM hinfos).1 hinfo
    obtain ⟨plugin, hplugin, rfl⟩ := infoOf_eq_ok.1 hinfo
    exact ⟨node, hnode, plugin, hplugin, hline⟩
  · rintro ⟨node, hnode, plugin, hplugin, hline⟩
    have hinfo := infoOf_eq_ok.2 ⟨plugin, hplugin, rfl⟩
    exact ⟨plugin.info, (Result.mem_of_mapM hinfos).2 ⟨node, hnode, hinfo⟩, hline⟩

/-- The import lines that layers need are among those of the built-in types. -/
theorem Pipeline.mem_importLines {layers : List Layer} {imports : List String}
    (h : importsOf registry.resolve layers = .ok imports) :
    ∀ line ∈ imports, line ∈ importLines := by
  intro line hline
  obtain ⟨node, -, plugin, hplugin, hmem⟩ := (mem_of_importsOf h).1 hline
  exact Node.mem_importLines plugin (mem_builtins_of_resolve hplugin) line hmem

/-- A pipeline that writes a single line has no room for import lines, of its own or of the layers
    inside. -/
theorem Pipeline.headers_of_emit {child : Child}
    (ih : ∀ inner ∈ child.layers, ∀ code, (inner.part registry.resolve).code = .ok code →
      height code.toList ≤ 1 → headers [inner] = []) {given : Value} {settings : Entries}
    (hsettings : schema.parseValue typeKey given = .ok settings) {code : String}
    (h : emit given (child.inside registry.resolve) = .ok code) (hheight : height code.toList ≤ 1) :
    headers child.layers = [] ∧
      (settings.flag "includeImports" = true →
        importsOf registry.resolve child.layers = .ok []) := by
  rw [Pipeline.emit_eq hsettings] at h
  obtain ⟨sections, hsections, h⟩ := Result.bind_eq_ok.1 h
  have hinner : height ("\n\n".intercalate sections).toList ≤ 1 →
      headers child.layers = [] := fun hbody =>
    headers_eq_nil fun inner hmem =>
      have ⟨own, hown, hle⟩ := exists_code_of_sections hsections inner hmem
      ih inner hmem own hown (Nat.le_trans hle hbody)
  split at h
  · obtain ⟨imports, himports, h⟩ := Result.bind_eq_ok.1 h
    obtain rfl := Except.ok.inj h
    have himports := Result.mapError_eq_ok.1 himports
    have hbody := hheight
    rw [Fragment.height_withImports] at hbody
    refine ⟨hinner (by omega), fun _ => ?_⟩
    -- what stands below import lines is a line itself, so there are none
    obtain ⟨metadata, hmetadata, rfl⟩ := Result.map_eq_ok.1 himports
    obtain ⟨infos, hinfos, rfl⟩ := Result.map_eq_ok.1 hmetadata
    obtain ⟨found, hfound, rfl⟩ := Result.map_eq_ok.1 hsections
    have hline := isLineOf_sections (fun inner _ => isLineOf_of_height_le_one inner) hfound
      (show height ("\n\n".intercalate (found.filterMap id)).toList ≤ 1 by omega)
    have hsame := hline.withImports_eq hinfos hheight
    have hzero := Fragment.height_withImports ("\n\n".intercalate (found.filterMap id))
      (Metadata.ofInfos infos).imports
    rw [hsame] at hzero
    rw [himports]
    refine congrArg Except.ok (List.eq_nil_iff_forall_not_mem.2 fun line hmem => ?_)
    have hpos := Fragment.height_pos
      (isBlankText_importLine (mem_importLines himports line hmem))
    have hle := Fragment.height_le_height_stack hmem
    omega
  · next hflag =>
    obtain rfl := Except.ok.inj h
    exact ⟨hinner hheight, fun hset => absurd hset hflag⟩

/-- What a layer writes on a single line holds no import lines at the head of anything, as long as
    the layer is asked for no fewer of them than its own settings say. -/
theorem headers_of_emit {layer : Layer}
    (ih : ∀ inner ∈ layer.child.layers, ∀ code, (inner.part registry.resolve).code = .ok code →
      height code.toList ≤ 1 → headers [inner] = []) {plugin : Plugin}
    (hfound : registry.resolve layer.type = .ok plugin) {given : Value} {code : String}
    (hcode : plugin.emit given (layer.child.inside registry.resolve) = .ok code)
    (hheight : height code.toList ≤ 1)
    (hgiven : plugin = Pipeline.plugin → writesHeader layer = true → ∀ settings,
      Pipeline.schema.parseValue Pipeline.typeKey given = .ok settings →
        settings.flag "includeImports" = true) : headers [layer] = [] := by
  rw [headers_singleton]
  rcases cases_of_height_le_one plugin (mem_builtins_of_resolve hfound) _ _ _ hcode hheight with
    ⟨node, hnode, rfl⟩ | ⟨rfl, hnone, -⟩ | rfl
  · have hother : ∀ node ∈ constructors, node.typeKey ≠ Pipeline.typeKey := by decide
    obtain ⟨_, hdone, -⟩ := Result.bind_eq_ok.1 hcode
    rw [header_of_not_writesHeader (writesHeader_of_resolve hfound (hother node hnode)),
      headers_of_childless (refuseChild_eq_ok.1 hdone), List.append_nil]
  · rw [header_of_not_writesHeader (writesHeader_of_resolve hfound (by decide)),
      headers_of_childless hnone, List.append_nil]
  · obtain ⟨settings, hsettings, -⟩ := Result.bind_eq_ok.1 hcode
    obtain ⟨hinner, himports⟩ := Pipeline.headers_of_emit ih hsettings hcode hheight
    rw [hinner, List.append_nil]
    cases hwrites : writesHeader layer with
    | false => exact header_of_not_writesHeader hwrites
    | true =>
      have hflag := hgiven rfl hwrites settings hsettings
      exact header_of_writesHeader hwrites (himports hflag)

/-- Code of a single line holds no import lines at the head of anything. -/
theorem headers_of_height_le_one (layer : Layer) :
    ∀ code, (layer.part registry.resolve).code = .ok code → height code.toList ≤ 1 →
      headers [layer] = [] := by
  induction layer using Layer.induct with
  | inherits layer ih =>
    intro code hcode hheight
    unfold Part.code at hcode
    rw [Layer.part_codeUnder, Layer.part_layer] at hcode
    obtain ⟨plugin, hplugin, hemit⟩ := Result.bind_eq_ok.1 hcode
    have hfound := Result.mapError_eq_ok.1 hplugin
    refine headers_of_emit ih hfound hemit hheight ?_
    rintro rfl hwrites settings hsettings
    rwa [writesHeader_of_parseValue hfound hsettings] at hwrites

/-! ### Modules -/

/-- Settings that a pipeline accepts name no variable, so a module leaves them as they are. -/
theorem boundSettings_of_parseValue {own settings : Entries}
    (h : Pipeline.schema.parseValue Pipeline.typeKey (.ofEntries own) = .ok settings) :
    Module.boundSettings Pipeline.info own = own := by
  have hunknown : Pipeline.schema.unknownKeys own = [] := by
    rw [Value.ofEntries, Schema.parseValue, Schema.strangerOf_ofEntries] at h
    obtain ⟨-, -, hnone, -⟩ := Schema.checkMerged_eq_ok_iff.1 (Result.mapError_eq_ok.1 h)
    exact List.map_eq_nil_iff.1 hnone
  have hfree : ∀ entry ∈ own, (!(entry.1 == "variableName")) = true := by
    intro entry hentry
    rw [Bool.not_eq_true', beq_eq_false_iff_ne]
    intro hname
    have hmem : "variableName" ∈ Pipeline.schema.unknownKeys own :=
      List.mem_filter.2 ⟨hname ▸ List.mem_map_of_mem hentry, by decide⟩
    rw [hunknown] at hmem
    exact List.not_mem_nil hmem
  have hnone : (Pipeline.info.schema.standards.any (·.1 == "variableName")) = false := by decide
  unfold Module.boundSettings
  simp only [hnone]
  exact List.filter_eq_self.2 hfree

/-- Nothing inside a layer that is bound to an attribute has import lines at its head. -/
theorem headers_of_boundPart {index : Nat} {known : List String} {layer : Layer}
    {bound : String × String}
    (h : Module.boundPart index known (layer.part registry.resolve) = .ok bound) :
    headers [layer] = [] := by
  obtain ⟨plugin, code, hfound, hemit, hheight, -⟩ := exists_emit_of_boundPart h
  refine headers_of_emit (fun inner _ => headers_of_height_le_one inner) hfound hemit hheight ?_
  rintro rfl hwrites settings hsettings
  -- its own settings, which ask for import lines, are accepted, so it is bound by these very ones
  unfold writesHeader at hwrites
  rw [Bool.and_eq_true] at hwrites
  cases hown : layer.settings with
  | none =>
    rw [hown] at hsettings
    obtain rfl := Except.ok.inj hsettings
    rfl
  | some own =>
    cases haccepted : Pipeline.schema.parseValue Pipeline.typeKey (.ofEntries own) with
    | error failure =>
      rw [hown, settingsValue, haccepted] at hwrites
      exact absurd hwrites.2 nofun
    | ok accepted =>
      rw [hown, settingsValue, haccepted] at hwrites
      rw [hown] at hsettings
      change Pipeline.schema.parseValue Pipeline.typeKey
        (.ofEntries (Module.boundSettings Pipeline.info own)) = _ at hsettings
      rw [boundSettings_of_parseValue haccepted, haccepted] at hsettings
      exact Except.ok.inj hsettings ▸ hwrites.2

theorem headers_of_boundParts {layers : List Layer} {index : Nat} {known : List String}
    {bound : List (String × String)}
    (h : Module.boundParts index known (layers.map (·.part registry.resolve)) = .ok bound) :
    headers layers = [] := by
  induction layers generalizing index known bound with
  | nil => rfl
  | cons layer rest ih =>
    obtain ⟨first, others, hfirst, hothers, rfl⟩ := Module.boundParts_cons_eq_ok.1 h
    rw [← List.singleton_append, headers_append, headers_of_boundPart hfirst, ih hothers,
      List.append_nil]

/-! ### Instances of classes -/

/-- A name is shown on a single line, whatever type of text it is given as. -/
theorem not_mem_display_of_nameOf {given v : Value} (h : Shape.nameOf given = .ok v)
    {shown : String} (hshown : given.display = .ok shown) : '\n' ∉ shown.toList := by
  obtain ⟨s, hs, -, hname⟩ := Shape.nameOf_eq_ok.1 h
  unfold Shape.textOf at hs
  split at hs
  · obtain rfl := Except.ok.inj hs
    obtain rfl := Except.ok.inj hshown
    exact Text.not_mem_of_isName hname (by decide)
  · obtain rfl := Except.ok.inj hs
    obtain rfl := Except.ok.inj hshown
    exact Text.not_mem_of_isName hname (by decide)
  · next content =>
    obtain rfl := Except.ok.inj hshown
    rw [String.toList_ofList]
    exact Value.not_mem_of_forall_isPrintable (by decide)
      (Text.isPrintable_of_mem_quoteBytes content)
  · exact absurd hs nofun

/-- The name of a class that is defined by validated settings. -/
theorem className_cases : ∀ plugin ∈ builtins, ∀ standard,
    plugin.info.schema.standards.get? "className" = some standard →
      (∃ field ∈ plugin.info.schema, field.key = "className" ∧ field.shape = .name) ∧
        ∃ v, Shape.nameOf standard = .ok v := by
  apply forall_mem_builtins
  case constructor =>
    intro node hnode standard hstandard
    have hnone : ∀ node ∈ constructors,
        (node.schema.standards.get? "className").isNone = true := by decide
    have hother := Option.isNone_iff_eq_none.1 (hnone node hnode)
    exact absurd (hstandard.symm.trans hother) (Option.some_ne_none _)
  case dataset =>
    intro standard hstandard
    obtain rfl := Option.some.inj hstandard
    exact ⟨by decide, .str "CustomDataset", by cbv⟩
  case module =>
    intro standard hstandard
    obtain rfl := Option.some.inj hstandard
    exact ⟨by decide, .str "NeuralNetwork", by cbv⟩
  all_goals
    intro standard hstandard
    exact absurd hstandard.symm (Option.some_ne_none _)

/-- The name that an instance of a class is made by stands on a single line. -/
theorem not_mem_className {layer : Layer} (hdistinct : hasDistinctKeys layer.settings)
    {plugin : Plugin} (hplugin : plugin ∈ builtins) {settings : Entries}
    (hsettings : plugin.info.schema.parseValue plugin.info.typeKey
      (settingsValue layer.settings) = .ok settings) {className : Value}
    (hclass : Pipeline.className? plugin.info (layer.settings.getD []) = some className)
    {shown : String} (hshown : className.display = .ok shown) : '\n' ∉ shown.toList := by
  obtain ⟨standard, hstandard, hclass⟩ := Option.map_eq_some_iff.1 hclass
  obtain ⟨⟨field, hfield, hkey, hshape⟩, v, hv⟩ := className_cases plugin hplugin standard hstandard
  have hdefault : className = standard → '\n' ∉ shown.toList := by
    rintro rfl
    exact not_mem_display_of_nameOf hv hshown
  cases hown : layer.settings with
  | none =>
    rw [hown] at hclass
    exact hdefault hclass.symm
  | some own =>
    rw [hown] at hclass hsettings hdistinct
    change own.keys.Nodup at hdistinct
    dsimp only [Option.getD_some] at hclass
    split at hclass
    · next given hgiven =>
      split at hclass
      · -- the name is given, and it was checked
        obtain rfl := hclass
        obtain ⟨before, after, hsplit, -⟩ := List.lookup_eq_some_iff.1 hgiven
        have hmem : ("className", given) ∈ own := hsplit ▸ by simp
        rw [settingsValue, Value.ofEntries, Schema.parseValue, Schema.named_ofEntries] at hsettings
        obtain ⟨-, hchecked⟩ := Schema.checkMerged_eq_ok (Result.mapError_eq_ok.1 hsettings)
        obtain ⟨w, hw, -⟩ := hchecked field hfield
        rw [hkey, Schema.get?_merge_of_mem hdistinct hmem, hshape] at hw
        exact not_mem_display_of_nameOf (Shape.only_eq_ok.1 hw) hshown
      · exact hdefault hclass.symm
    · exact hdefault hclass.symm

/-- A layer that has code has settings that are accepted. -/
theorem exists_settings_of_code {layer : Layer} {code : String}
    (h : (layer.part registry.resolve).code = .ok code) :
    ∃ plugin settings, registry.resolve layer.type = .ok plugin ∧
      plugin.info.schema.parseValue plugin.info.typeKey (settingsValue layer.settings) =
        .ok settings := by
  unfold Part.code at h
  rw [Layer.part_codeUnder, Layer.part_layer] at h
  obtain ⟨plugin, hplugin, hemit⟩ := Result.bind_eq_ok.1 h
  have hfound := Result.mapError_eq_ok.1 hplugin
  obtain ⟨before, after, hsteps⟩ :=
    exists_emit_eq plugin (mem_builtins_of_resolve hfound) (layer.child.inside registry.resolve)
  rw [hsteps] at hemit
  obtain ⟨_, -, hemit⟩ := Result.bind_eq_ok.1 hemit
  obtain ⟨settings, hsettings, -⟩ := Result.bind_eq_ok.1 hemit
  exact ⟨plugin, settings, hfound, hsettings⟩

/-- The variable for an instance stands on a single line. -/
theorem Pipeline.not_mem_instanceVariable {given : Value} {settings : Entries}
    (hsettings : schema.parseValue typeKey given = .ok settings) {category : Category}
    {name : String} (h : instanceVariable settings category = some name) :
    '\n' ∉ name.toList := by
  have hfits := Schema.fits_of_parseValue hsettings
  have hkeys : schema.keys.Nodup := by decide
  have hvariable : ∀ field ∈ schema, field.shape = .optional .name →
      settings.text? field.key = some name → '\n' ∉ name.toList := by
    intro field hfield hshape htext
    obtain ⟨v, hv, hvfits⟩ := hfits.get? hkeys hfield
    rw [hshape] at hvfits
    unfold Entries.text? at htext
    rw [hv] at htext
    rcases hvfits with rfl | ⟨s, rfl, hs⟩
    · exact absurd htext nofun
    · obtain rfl := Option.some.inj htext
      exact Text.not_mem_of_isName hs (by decide)
  unfold instanceVariable at h
  split at h
  · exact hvariable _ (List.getElem_mem (n := 1) (by decide)) rfl h
  · split at h
    · exact hvariable _ (List.getElem_mem (n := 2) (by decide)) rfl h
    · exact absurd h nofun

/-! ### Occurrences -/

/-- Import lines hold each other as often as they are the same. -/
theorem sum_occurrences_of_importLines {line : String} {imports : List String}
    (h : ∀ other ∈ imports, other ∈ importLines) :
    (imports.map (occurrences line)).sum = imports.count line := by
  have hlines : imports.flatMap Fragment.bareLines = imports.map String.toList := by
    rw [← List.flatMap_singleton' (imports.map String.toList), List.flatMap_map]
    exact List.flatMap_congr fun other hother => bareLines_importLine (h other hother)
  rw [← Fragment.count_flatMap_bareLines, hlines]
  exact List.count_map_of_injective imports String.toList
    (fun _ _ hsame => String.toList_inj.1 hsame) line

section occurrences
variable {line : String} (hline : line ∈ importLines)
include hline

/-- A section has the import lines of the code of its layer. -/
theorem Pipeline.occurrences_sectionOf {given : Value} {settings : Entries}
    (hsettings : schema.parseValue typeKey given = .ok settings) {layer : Layer}
    (hdistinct : hasDistinctKeys layer.settings) {text? : Option String}
    (h : sectionOf settings (layer.part registry.resolve) = .ok text?) :
    ∃ code, (layer.part registry.resolve).code = .ok code ∧
      (text?.toList.map (occurrences line)).sum = occurrences line code := by
  obtain ⟨code, hcode, ⟨hblank, rfl⟩ | ⟨-, info, hinfo, hcases⟩⟩ := sectionOf_eq_ok h
  · exact ⟨code, hcode, (Fragment.occurrences_of_isBlank hblank).symm⟩
  refine ⟨code, hcode, ?_⟩
  rcases hcases with rfl | ⟨variableName, className, shown, hvariable, hclass, hshown, rfl⟩
  · rw [Option.toList_some, List.map_singleton, List.sum_singleton,
      Fragment.occurrences_trimBreaks]
  · -- the instance of the class is a statement of its own
    obtain ⟨plugin, own, hfound, hown⟩ := exists_settings_of_code hcode
    rw [Layer.part_info, hfound] at hinfo
    obtain rfl : plugin.info = info := Except.ok.inj hinfo
    rw [Layer.part_layer] at hclass
    have hname := not_mem_instanceVariable hsettings hvariable
    have hsingle :=
      not_mem_className hdistinct (mem_builtins_of_resolve hfound) hown hclass hshown
    have hinstance : occurrences line (variableName ++ " = " ++ shown ++ "()") = 0 := by
      refine occurrences_of_mark hline (c := '=') ?_ (by decide) (by simp)
      simp [hname, hsingle]
    have htexts : Fragment.trimBreaks code ++ "\n\n" ++ (variableName ++ " = " ++ shown ++ "()") =
        "\n\n".intercalate [Fragment.trimBreaks code, variableName ++ " = " ++ shown ++ "()"] := by
      rw [String.intercalate_cons_of_ne_nil (List.cons_ne_nil _ _), String.intercalate_singleton]
    rw [Option.toList_some, List.map_singleton, List.sum_singleton, htexts,
      Fragment.occurrences_spaced, List.map_cons, List.map_singleton, List.sum_cons,
      List.sum_singleton, hinstance, Nat.add_zero, Fragment.occurrences_trimBreaks]

/-- What is known of the code of layers is known of their sections together. -/
theorem Pipeline.occurrences_sectionsOf {given : Value} {settings : Entries}
    (hsettings : schema.parseValue typeKey given = .ok settings) {layers : List Layer}
    (hdistinct : ∀ layer ∈ layers, hasDistinctKeys layer.settings)
    (ih : ∀ layer ∈ layers, ∀ code, (layer.part registry.resolve).code = .ok code →
      occurrences line code = (headers [layer]).count line) {sections : List String}
    (h : sectionsOf registry.resolve settings layers = .ok sections) :
    (sections.map (occurrences line)).sum = (headers layers).count line := by
  induction layers generalizing sections with
  | nil =>
    obtain rfl := Except.ok.inj h
    rfl
  | cons layer rest ihrest =>
    obtain ⟨hlayer, hothers⟩ := List.forall_mem_cons.1 hdistinct
    obtain ⟨ihlayer, ihothers⟩ := List.forall_mem_cons.1 ih
    rw [← List.singleton_append, sectionsOf_append] at h
    obtain ⟨front, hfront, h⟩ := Result.bind_eq_ok.1 h
    obtain ⟨back, hback, h⟩ := Result.bind_eq_ok.1 h
    obtain rfl := Except.ok.inj h
    rw [sectionsOf_singleton] at hfront
    obtain ⟨text?, htext, rfl⟩ := Result.map_eq_ok.1 hfront
    obtain ⟨code, hcode, hsum⟩ := occurrences_sectionOf hline hsettings hlayer htext
    rw [List.map_append, List.sum_append, hsum, ihlayer code hcode, ihrest hothers ihothers hback,
      ← List.count_append, ← headers_append, List.singleton_append]

omit hline in
/-- What is known of the code of layers is known of their codes together. -/
theorem sum_occurrences_of_mapM {layers : List Layer}
    (ih : ∀ layer ∈ layers, ∀ code, (layer.part registry.resolve).code = .ok code →
      occurrences line code = (headers [layer]).count line) {codes : List String}
    (h : (layers.map (·.part registry.resolve)).mapM (·.code) = .ok codes) :
    (codes.map (occurrences line)).sum = (headers layers).count line := by
  induction layers generalizing codes with
  | nil =>
    obtain rfl := Except.ok.inj h
    rfl
  | cons layer rest ihrest =>
    obtain ⟨ihlayer, ihothers⟩ := List.forall_mem_cons.1 ih
    rw [List.map_cons] at h
    obtain ⟨code, others, hcode, hothers, rfl⟩ := Result.mapM_cons_eq_ok.1 h
    rw [List.map_cons, List.sum_cons, ihlayer code hcode, ihrest ihothers hothers,
      ← List.count_append, ← headers_append, List.singleton_append]

/-- A pipeline has the import lines of the layers inside, and those at its own head. -/
theorem Pipeline.occurrences_emit {layer : Layer}
    (hfound : registry.resolve layer.type = .ok plugin)
    (hdistinct : ∀ inner ∈ layer.child.layers, hasDistinctKeys inner.settings)
    (ih : ∀ inner ∈ layer.child.layers, ∀ code, (inner.part registry.resolve).code = .ok code →
      occurrences line code = (headers [inner]).count line) {code : String}
    (h : emit (settingsValue layer.settings) (layer.child.inside registry.resolve) = .ok code) :
    occurrences line code = (headers [layer]).count line := by
  obtain ⟨settings, hsettings, -⟩ := Result.bind_eq_ok.1 h
  have hwrites := writesHeader_of_parseValue hfound hsettings
  rw [Pipeline.emit_eq hsettings] at h
  obtain ⟨sections, hsections, h⟩ := Result.bind_eq_ok.1 h
  have hinner := occurrences_sectionsOf hline hsettings hdistinct ih hsections
  rw [headers_singleton, List.count_append]
  cases hflag : settings.flag "includeImports" with
  | false =>
    rw [hflag] at hwrites h
    obtain rfl := Except.ok.inj h
    rw [header_of_not_writesHeader hwrites, List.count_nil, Nat.zero_add,
      Fragment.occurrences_spaced, hinner]
  | true =>
    rw [hflag] at hwrites h
    obtain ⟨imports, himports, h⟩ := Result.bind_eq_ok.1 h
    obtain rfl := Except.ok.inj h
    have himports := Result.mapError_eq_ok.1 himports
    rw [header_of_writesHeader hwrites himports, Fragment.occurrences_withImports,
      Fragment.occurrences_spaced, hinner,
      sum_occurrences_of_importLines (mem_importLines himports)]

/-- A layer that is no pipeline has the import lines of the layers inside. -/
theorem occurrences_of_emit : ∀ plugin ∈ builtins, plugin.info.typeKey ≠ Pipeline.typeKey →
    ∀ (child : Child) (given : Value) (code : String),
      (∀ settings, plugin.info.schema.parseValue plugin.info.typeKey given = .ok settings →
        ∀ user ∈ codesIn plugin.info.schema settings, occurrences line user = 0) →
      (∀ inner ∈ child.layers, ∀ code, (inner.part registry.resolve).code = .ok code →
        occurrences line code = (headers [inner]).count line) →
      plugin.emit given (child.inside registry.resolve) = .ok code →
        occurrences line code = (headers child.layers).count line := by
  apply forall_mem_builtins
  case constructor =>
    intro node hnode _ child given code huser _ hcode
    obtain ⟨_, hdone, hrest⟩ := Result.bind_eq_ok.1 hcode
    obtain ⟨settings, hsettings, -⟩ := Result.bind_eq_ok.1 hrest
    rw [headers_of_childless (refuseChild_eq_ok.1 hdone), List.count_nil]
    exact ConstructorNode.occurrences_eq_zero hnode hline hsettings hcode (huser settings hsettings)
  case dataset =>
    intro _ child given code huser _ hcode
    obtain ⟨hgiven, settings, hsettings, hvalid⟩ := emit_eq_ok.1 hcode
    obtain ⟨-, rfl⟩ := Dataset.emitValid_eq_ok.1 hvalid
    rw [headers_of_childless hgiven, List.count_nil]
    exact Dataset.occurrences_eq_zero hline hsettings (huser settings hsettings)
  case module =>
    intro _ child given code huser _ hcode
    obtain ⟨settings, hsettings, -⟩ := Result.bind_eq_ok.1 hcode
    obtain ⟨parts, bound, flow, hparts, hbound, hflow, rfl⟩ :=
      Module.exists_of_emit hsettings hcode
    rw [Child.inside_parts] at hparts
    obtain rfl := Except.ok.inj hparts
    rw [headers_of_boundParts hbound, List.count_nil]
    exact Module.occurrences_eq_zero hline hsettings hbound hflow (huser settings hsettings)
  case pipeline => exact fun hother => absurd rfl hother
  case report =>
    intro _ child given code huser _ hcode
    obtain ⟨hgiven, settings, hsettings, hvalid⟩ := emit_eq_ok.1 hcode
    rw [headers_of_childless hgiven, List.count_nil]
    rcases Report.emitValid_eq_ok.1 hvalid with ⟨-, rfl⟩ | ⟨-, hbreak, rfl⟩
    · rfl
    · exact Report.occurrences_eq_zero hline hbreak (huser settings hsettings)
  -- the only layer of these that puts the code of the layers inside into its own
  case epoch =>
    intro _ child given code _ ih hcode
    obtain ⟨settings, hsettings, hvalid⟩ := Result.bind_eq_ok.1 hcode
    obtain ⟨-, parts, codes, hparts, hcodes, rfl⟩ := Epoch.emitValid_eq_ok.1 hvalid
    rw [Child.inside_parts] at hparts
    obtain rfl := Except.ok.inj hparts
    rw [Epoch.occurrences_eq hline hsettings]
    exact sum_occurrences_of_mapM ih hcodes
  case trainer =>
    intro _ child given code huser _ hcode
    obtain ⟨hgiven, settings, hsettings, hvalid⟩ := emit_eq_ok.1 hcode
    obtain ⟨n, hn, -⟩ := Trainer.exists_epochs hsettings
    obtain ⟨epochs, hepochs, rfl⟩ := (Trainer.emitValid_eq_ok hn).1 hvalid
    rw [headers_of_childless hgiven, List.count_nil]
    exact Trainer.occurrences_eq_zero hline hsettings hepochs (huser settings hsettings)

/-- An import line stands in the code of a layer as often as there are pipelines in it, the layer
    itself among them, that have it at their heads. -/
theorem occurrences_code (layer : Layer) : layer.Throughout hasDistinctKeys →
    (∀ node ∈ layer.preorder, ∀ user ∈ userCodes node, occurrences line user = 0) →
      ∀ code, (layer.part registry.resolve).code = .ok code →
        occurrences line code = (headers [layer]).count line := by
  induction layer using Layer.induct with
  | inherits layer ih =>
    rintro ⟨_, -, hinside⟩ huser code hcode
    rw [Layer.preorder_eq, List.forall_mem_cons] at huser
    obtain ⟨hown, hothers⟩ := huser
    have hinner : ∀ inner ∈ layer.child.layers, ∀ code,
        (inner.part registry.resolve).code = .ok code →
          occurrences line code = (headers [inner]).count line := fun inner hmem =>
      ih inner hmem (hinside inner hmem) fun node hnode =>
        hothers node (Layer.mem_preorders.2 ⟨inner, hmem, hnode⟩)
    unfold Part.code at hcode
    rw [Layer.part_codeUnder, Layer.part_layer] at hcode
    obtain ⟨plugin, hplugin, hemit⟩ := Result.bind_eq_ok.1 hcode
    have hfound := Result.mapError_eq_ok.1 hplugin
    cases hpipeline : isPipeline layer.type with
    | true =>
      obtain rfl := Except.ok.inj (hfound.symm.trans (isPipeline_iff.1 hpipeline))
      refine Pipeline.occurrences_emit hline hfound (fun inner hmem => ?_) hinner hemit
      obtain ⟨_, hsettings, -⟩ := hinside inner hmem
      exact hsettings
    | false =>
      have hother : plugin.info.typeKey ≠ Pipeline.typeKey := by
        rw [isPipeline_of_resolve hfound] at hpipeline
        exact ne_of_beq_false hpipeline
      rw [headers_singleton,
        header_of_not_writesHeader (writesHeader_of_resolve hfound hother), List.nil_append]
      refine occurrences_of_emit hline plugin (mem_builtins_of_resolve hfound) hother _ _ code
        (fun settings hsettings => ?_) hinner hemit
      exact userCodes_of_resolve hfound hsettings ▸ hown

end occurrences

end LayerGraph.Node
