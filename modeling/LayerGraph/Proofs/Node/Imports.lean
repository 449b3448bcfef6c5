import LayerGraph.Proofs.Flow.Rewriting
import LayerGraph.Proofs.Fragment.Occurrences
import LayerGraph.Proofs.Node.Expressions
import LayerGraph.Proofs.Value.Faithful

/-! # Code without import lines

    The built-in node types need a handful of import lines (`importLines`), and none of them writes
    one into its code: every line of a template has a mark on it that no import line has, and so do
    the lines on which the user's code touches a template. So code without import lines of the
    user's stays without them, whatever the node type puts around it.
-/

namespace LayerGraph

open Fragment (occurrences stack)
open Text (lines)

/-! ### Import lines -/

namespace Node

/-- The import lines that the built-in node types need. -/
def importLines : List String :=
  ["import torch", "import torch.nn as nn", "from torch.utils.data import Dataset",
    "from torch.utils.data import DataLoader"]

theorem mem_importLines : ∀ plugin ∈ builtins, ∀ line ∈ plugin.info.imports,
    line ∈ importLines := by
  decide

/-- Characters that stand in no import line. -/
def foreignMarks : List Char := ['(', ')', ':', '=', '_']

section marks
variable {line : String} (hline : line ∈ importLines)
include hline

theorem not_mem_of_mem_foreignMarks {c : Char} (hc : c ∈ foreignMarks) :
    Text.isBlank c = false ∧ c ∉ line.toList := by
  have hsolid : foreignMarks.all (!Text.isBlank ·) = true := by decide
  have hnone : ∀ line ∈ importLines, foreignMarks.all (!line.toList.contains ·) = true := by
    decide
  exact ⟨by simpa using List.all_eq_true.1 hsolid c hc,
    by simpa using List.all_eq_true.1 (hnone line hline) c hc⟩

/-- A single line with such a mark is no import line. -/
theorem occurrences_of_mark {text : String} (hbreak : '\n' ∉ text.toList) {c : Char}
    (hc : c ∈ foreignMarks) (hmem : c ∈ text.toList) : occurrences line text = 0 :=
  have hforeign := not_mem_of_mem_foreignMarks hline hc
  Fragment.occurrences_of_mem hbreak hmem hforeign.1 hforeign.2

/-- A line with such a mark behind a text is no import line. -/
theorem occurrences_header {before middle behind : String} (hbefore : '\n' ∉ before.toList)
    (hmiddle : '\n' ∉ middle.toList) (hbehind : '\n' ∉ behind.toList) {c : Char}
    (hc : c ∈ foreignMarks) (hmem : c ∈ behind.toList) :
    occurrences line (before ++ middle ++ behind) = 0 := by
  refine occurrences_of_mark hline ?_ hc (c := c) ?_
  · rw [String.toList_append, String.toList_append, List.mem_append, List.mem_append]
    exact fun hbreak => hbreak.elim (fun h => h.elim hbefore hmiddle) hbehind
  · rw [String.toList_append]
    exact List.mem_append_right _ hmem

/-- Single lines of which each is empty or has such a mark are no import lines. -/
theorem occurrences_of_marks {texts : List String} (hbreak : ∀ text ∈ texts, '\n' ∉ text.toList)
    (hmarks : ∀ text ∈ texts, text = "" ∨ ∃ c ∈ foreignMarks, c ∈ text.toList) :
    ∀ text ∈ texts, occurrences line text = 0 := by
  intro text htext
  rcases hmarks text htext with rfl | ⟨c, hc, hmem⟩
  · rfl
  · exact occurrences_of_mark hline (hbreak text htext) hc hmem

/-- The code of the user's stays without import lines as the body of a block. -/
theorem occurrences_body {code : String} (h : occurrences line code = 0) (level : Nat) :
    occurrences line (Fragment.body code level) = 0 := by
  have hpass : "pass" ∉ importLines := by decide
  exact Fragment.occurrences_body (fun hsame => hpass (hsame ▸ hline)) h level

theorem isBlankText_importLine : Text.isBlankText line.toList = false := by
  have hall : ∀ line ∈ importLines, Text.isBlankText line.toList = false := by decide
  exact hall line hline

/-- An import line is the only line of its own text. -/
theorem solidLines_importLine : Fragment.solidLines line.toList = [line.toList] := by
  have hbreak : ∀ line ∈ importLines, '\n' ∉ line.toList := by decide
  exact Fragment.solidLines_of_not_mem (hbreak line hline) (isBlankText_importLine hline)

/-- There are no blanks around an import line. -/
theorem bareLines_importLine : Fragment.bareLines line = [line.toList] := by
  have hends : ∀ line ∈ importLines, line.toList.head?.all (!Text.isBlank ·) = true ∧
      line.toList.getLast?.all (!Text.isBlank ·) = true := by decide
  obtain ⟨hfirst, hlast⟩ := hends line hline
  have htrim : Text.trim line.toList = line.toList :=
    Text.trimWhile_of_ends (fun c hc => by simpa [hc] using hfirst)
      (fun c hc => by simpa [hc] using hlast)
  unfold Fragment.bareLines
  rw [solidLines_importLine hline, List.map_singleton, htrim]

end marks

/-! ### The user's code -/

/-- Whether settings of this shape are code of the user's: text of any kind. -/
def isCode : Shape → Bool
  | .text => true
  | .filledText => true
  | _ => false

/-- The user's code in validated settings. -/
def codesIn (schema : Schema) (settings : Entries) : List String :=
  (schema.filter (isCode ·.shape)).map (settings.text ·.key)

theorem text_mem_codesIn {schema : Schema} {field : SettingField} (hfield : field ∈ schema)
    (hshape : isCode field.shape = true) {key : String} (hkey : field.key = key)
    (settings : Entries) : settings.text key ∈ codesIn schema settings :=
  hkey ▸ List.mem_map_of_mem (List.mem_filter.2 ⟨hfield, hshape⟩)

end Node

/-! ### Bound data flows -/

namespace Flow

/-- A line with `self.` in front of some columns is the line as it was, or has `self.` in it. -/
theorem qualifyLine_cases (columns : List Nat) (line : List Char) :
    qualifyLine columns line = line ∨ "self.".toList <:+: qualifyLine columns line := by
  have hjoin : Text.join "self.".toList (cutAt columns 0 line) = qualifyLine columns line :=
    join_cutAt columns 0 line
  have hflatten := flatten_cutAt columns 0 line
  obtain ⟨piece, pieces, hcut⟩ := exists_cutAt columns 0 line
  rw [hcut] at hjoin hflatten
  rw [← hjoin]
  cases pieces with
  | nil => exact .inl (by simpa [Text.join] using hflatten)
  | cons next pieces =>
    rw [Text.join_cons_cons]
    exact .inr ⟨piece, _, rfl⟩

/-- Binding names adds no lines: a line without `self.` that stands in the result stands in the data
    flow as often. -/
theorem occurrences_bind {line : String} (hline : ¬"self.".toList <:+: line.toList)
    {attributes : List String} {dataFlow result : String}
    (h : bind attributes dataFlow = .ok result)
    (hnone : occurrences line dataFlow = 0) : occurrences line result = 0 := by
  rw [Fragment.occurrences_eq_zero_iff] at hnone ⊢
  intro hmem
  obtain ⟨full, hfull, hsolid, htrim⟩ := Fragment.mem_bareLines.1 hmem
  unfold bind at h
  obtain ⟨ts, -, h⟩ := Result.bind_eq_ok.1 h
  obtain ⟨names, -, h⟩ := Result.bind_eq_ok.1 h
  rw [← Except.ok.inj h, String.toList_ofList, lines_unlines_qualify] at hfull
  obtain ⟨⟨given, index⟩, hgiven, rfl⟩ := List.mem_map.1 hfull
  have hnormal : given ∈ normalLines dataFlow := (List.mem_zipIdx hgiven).2.2 ▸ List.getElem_mem _
  rcases qualifyLine_cases ((names.filter (·.line == index + 1)).map (·.column)) given with
    hsame | hself
  · -- the line is one of the data flow
    dsimp only at hsolid htrim
    rw [hsame] at hsolid htrim
    obtain ⟨own, hown, rfl⟩ := List.mem_map.1 hnormal
    rw [Text.isBlankText_trimEnd] at hsolid
    rw [Fragment.trim_trimEnd] at htrim
    apply hnone
    rw [← Fragment.bareLines_trimBreaks]
    refine Fragment.mem_bareLines.2 ⟨own, ?_, hsolid, htrim⟩
    unfold Fragment.trimBreaks
    rwa [String.toList_ofList]
  · have hword : "self.".toList.all (!Text.isBlank ·) = true := by decide
    refine hline (htrim ▸ Text.isInfix_trimWhile (fun c hc => ?_) hself)
    simpa using List.all_eq_true.1 hword c hc

end Flow

/-! ### The code of node types -/

namespace Node

section code
variable {line : String} (hline : line ∈ importLines)
include hline

theorem Dataset.occurrences_eq_zero {given : Value} {settings : Entries}
    (h : schema.parseValue typeKey given = .ok settings)
    (huser : ∀ code ∈ codesIn schema settings, occurrences line code = 0) :
    occurrences line (stack (texts settings)) = 0 := by
  obtain ⟨hclass, hparams⟩ := not_mem_settings h
  simp only [parameterKeys, List.forall_mem_cons] at hparams
  obtain ⟨hinit, hlen, hitem, -⟩ := hparams
  have hbody : ∀ n key, (hn : n < schema.length) → isCode schema[n].shape = true →
      schema[n].key = key → occurrences line (Fragment.body (settings.text key) 2) = 0 :=
    fun n key hn hshape hkey => occurrences_body hline
      (huser _ (text_mem_codesIn (List.getElem_mem hn) hshape hkey settings)) 2
  apply Fragment.occurrences_stack_eq_zero
  simp only [texts, List.forall_mem_cons]
  exact ⟨occurrences_header hline (c := '(') (by decide) hclass (by decide) (by decide) (by decide),
    occurrences_header hline (c := ')') (by decide) hinit (by decide) (by decide) (by decide),
    hbody 2 "initCode" (by decide) rfl rfl, rfl,
    occurrences_header hline (c := ')') (by decide) hlen (by decide) (by decide) (by decide),
    hbody 4 "lenCode" (by decide) rfl rfl, rfl,
    occurrences_header hline (c := ')') (by decide) hitem (by decide) (by decide) (by decide),
    hbody 6 "getitemCode" (by decide) rfl rfl, List.forall_mem_nil _⟩

theorem Report.occurrences_eq_zero {settings : Entries} (hbreak : '\n' ∉ condition settings)
    (huser : ∀ code ∈ codesIn schema settings, occurrences line code = 0) :
    occurrences line (stack (texts settings)) = 0 := by
  have hstatements : occurrences line (settings.text "reportStatements") = 0 :=
    huser _ (text_mem_codesIn (List.getElem_mem (n := 1) (by decide)) rfl rfl settings)
  have hending : ∀ text ∈ ending settings, occurrences line text = 0 := by
    unfold ending
    split
    · exact List.forall_mem_singleton.2
        (occurrences_of_mark hline (c := '=') (by decide) (by decide) (by decide))
    · exact List.forall_mem_nil _
  apply Fragment.occurrences_stack_eq_zero
  simp only [texts, List.forall_mem_cons]
  refine ⟨?_, ?_, hending⟩
  · exact occurrences_header hline (c := ':') (by decide) (by rwa [String.toList_ofList])
      (by decide) (by decide) (by decide)
  · exact (Fragment.occurrences_indent _ 1).trans
      ((Fragment.occurrences_trimBreaks _).trans hstatements)

theorem Trainer.occurrences_eq_zero {given : Value} {settings : Entries}
    (h : schema.parseValue typeKey given = .ok settings) {n : Int} {epochs : List Char}
    (hepochs : integerText n = .ok epochs)
    (huser : ∀ code ∈ codesIn schema settings, occurrences line code = 0) :
    occurrences line (stack (texts settings epochs)) = 0 := by
  have hextra : occurrences line (settings.text "additionalCode") = 0 :=
    huser _ (text_mem_codesIn (List.getElem_mem (n := 7) (by decide)) rfl rfl settings)
  apply Fragment.occurrences_stack_eq_zero
  refine List.forall_mem_append.2 ⟨occurrences_of_marks hline (not_mem_head h hepochs) ?_, ?_⟩
  · simp [head, foreignMarks]
  · unfold ending
    split
    · exact List.forall_mem_nil _
    · exact List.forall_mem_singleton.2 ((Fragment.occurrences_indent _ 1).trans
        ((Fragment.occurrences_trimBreaks _).trans hextra))

omit hline in
/-- A report has the occurrences of the codes that it is made of. -/
theorem Epoch.occurrences_report (codes : List String) :
    ((report codes).map (occurrences line)).sum = (codes.map (occurrences line)).sum := by
  have htrimmed : occurrences line ∘ Fragment.trimBreaks = occurrences line := by
    funext code
    rw [Function.comp_apply, Fragment.occurrences_trimBreaks]
  have hstack : occurrences line (String.ofList (Text.unlines (reports codes))) =
      (codes.map (occurrences line)).sum := by
    rw [← stack_reports, Fragment.occurrences_stack, Fragment.occurrences_filter, List.map_map,
      htrimmed]
  rw [← hstack]
  unfold report
  split
  · next hnone =>
    rw [hnone]
    exact (Fragment.occurrences_of_isBlank rfl).symm
  · rw [List.map_singleton, List.sum_singleton]
    exact Fragment.occurrences_indent _ 2

/-- A training function adds nothing to the occurrences in the code inside. -/
theorem Epoch.occurrences_eq {given : Value} {settings : Entries}
    (h : schema.parseValue typeKey given = .ok settings) (codes : List String) :
    occurrences line (stack (texts settings codes)) = (codes.map (occurrences line)).sum := by
  have hhead := occurrences_of_marks hline (not_mem_head h) (by simp [head, foreignMarks])
  have htail : ∀ text ∈ tail, occurrences line text = 0 :=
    occurrences_of_marks hline (by decide) (by simp [tail, foreignMarks])
  rw [Fragment.occurrences_stack]
  unfold texts
  rw [List.map_append, List.map_append, List.sum_append, List.sum_append, occurrences_report,
    List.sum_eq_zero_iff_forall_eq_nat.2 (List.forall_mem_map.2 hhead),
    List.sum_eq_zero_iff_forall_eq_nat.2 (List.forall_mem_map.2 htail), Nat.zero_add, Nat.add_zero]

/-- Layers that are chained are passed through, one statement for each. -/
theorem Module.occurrences_chain {settings : Entries} {names : List String}
    (hparams : ∀ x ∈ settings.texts "forwardParams", Text.isName x = true)
    (hnames : ∀ name ∈ names, Text.isName name = true) :
    occurrences line (chain settings names) = 0 := by
  have hbreak : ∀ {name : String}, Text.isName name = true → '\n' ∉ name.toList := fun hname =>
    Text.not_mem_of_isName hname (by decide)
  unfold chain
  split
  · next x hx =>
    have hparam := hbreak (hparams x (hx ▸ List.mem_cons_self))
    apply Fragment.occurrences_stack_eq_zero
    refine List.forall_mem_append.2 ⟨List.forall_mem_map.2 fun name hname => ?_,
      List.forall_mem_singleton.2 ?_⟩
    · refine occurrences_of_mark hline (c := '=') ?_ (by decide) (by simp [chainLink])
      simp [chainLink, hparam, hbreak (hnames name hname)]
    · have hhead : importLines.all (·.toList.head? != some 'r') = true := by decide
      refine Fragment.occurrences_of_head (c := 'r') (by simp [hparam]) (by simp) (by decide) ?_
      simpa using List.all_eq_true.1 hhead line hline
  · rfl

/-- What stands in `forward` without import lines of the user's has none. -/
theorem Module.occurrences_forward {given : Value} {settings : Entries}
    (h : schema.parseValue typeKey given = .ok settings) {names : List String} {flow : String}
    (hflow : forward settings names = .ok flow)
    (hnames : ∀ name ∈ names, Text.isName name = true)
    (huser : occurrences line (settings.text "dataFlow") = 0) : occurrences line flow = 0 := by
  rw [forward_eq] at hflow
  split at hflow
  · obtain rfl := Except.ok.inj hflow
    exact Module.occurrences_chain hline (isName_of_forwardParams h) hnames
  · have hself : ∀ line ∈ importLines, ¬"self.".toList <:+: line.toList := by decide
    exact Flow.occurrences_bind (hself line hline) (Result.mapError_eq_ok.1 hflow) huser

theorem Module.occurrences_eq_zero {given : Value} {settings : Entries}
    (h : schema.parseValue typeKey given = .ok settings) {parts : List Part}
    {bound : List (String × String)} {flow : String} (hbound : boundParts 0 [] parts = .ok bound)
    (hflow : forward settings (bound.map (·.1)) = .ok flow)
    (huser : ∀ code ∈ codesIn schema settings, occurrences line code = 0) :
    occurrences line (stack (texts settings bound flow)) = 0 := by
  obtain ⟨hclass, hinit, hforward⟩ := not_mem_settings h
  have hnames : ∀ name ∈ bound.map (·.1), Text.isName name = true := fun name hname =>
    (Bool.and_eq_true_iff.1 (isAttribute_of_boundParts hbound name hname)).1
  have hbody : occurrences line flow = 0 := Module.occurrences_forward hline h hflow hnames
    (huser _ (text_mem_codesIn (List.getElem_mem (n := 3) (by decide)) rfl rfl settings))
  have hbinding : ∀ text ∈ "super().__init__()" :: bound.map binding,
      occurrences line text = 0 := by
    refine List.forall_mem_cons.2 ⟨?_, List.forall_mem_map.2 fun b hb => ?_⟩
    · exact occurrences_of_mark hline (c := '(') (by decide) (by decide) (by decide)
    · exact occurrences_of_mark hline (c := '=') (not_mem_binding hbound b hb) (by decide)
        (by simp [binding])
  apply Fragment.occurrences_stack_eq_zero
  simp only [texts, List.forall_mem_cons]
  exact ⟨occurrences_header hline (c := '(') (by decide) hclass (by decide) (by decide) (by decide),
    occurrences_header hline (c := ')') (by decide) hinit (by decide) (by decide) (by decide),
    (Fragment.occurrences_indent _ 2).trans (Fragment.occurrences_stack_eq_zero hbinding), rfl,
    occurrences_header hline (c := ')') (by decide) hforward (by decide) (by decide) (by decide),
    occurrences_body hline hbody 2, List.forall_mem_nil _⟩

end code

end Node

/-! ### The code of constructor nodes -/

namespace ConstructorNode

section call
variable {node : ConstructorNode} (hnode : node ∈ Node.constructors)
include hnode

/-- Only an optimizer has the user's code among its arguments, and then it stands in front of
    all others. -/
theorem cases_params :
    (∀ a ∈ node.required ++ node.optional, a.key ≠ "params") ∨
      ((∃ a, node.required = [a] ∧ a.key = "params" ∧ a.raw = true) ∧
        (∀ a ∈ node.optional, a.key ≠ "params") ∧
        ∃ field ∈ node.schema, field.key = "params" ∧ field.shape = .filledText) := by
  have hall : ∀ node ∈ Node.constructors,
      (∀ a ∈ node.required ++ node.optional, a.key ≠ "params") ∨
        ((∃ a ∈ node.required, a.key = "params" ∧ a.raw = true) ∧ node.required.length = 1 ∧
          (∀ a ∈ node.optional, a.key ≠ "params") ∧
          ∃ field ∈ node.schema, field.key = "params" ∧ field.shape = .filledText) := by decide
  refine (hall node hnode).imp id ?_
  rintro ⟨⟨a, ha, hkey, hraw⟩, hlength, hothers, hfield⟩
  obtain ⟨only, honly⟩ := List.length_eq_one_iff.1 hlength
  rw [honly, List.mem_singleton] at ha
  exact ⟨⟨a, ha ▸ honly, hkey, hraw⟩, hothers, hfield⟩

/-- An argument that is not the user's code stands on a single line. -/
theorem not_mem_argument {settings : Entries} (hfits : node.schema.Fits settings) {a : Argument}
    (ha : a ∈ node.required ++ node.optional) (hother : a.key ≠ "params") {positional : Bool}
    {text : String} (h : Call.requiredArgument positional (a.fed settings) = .ok text) :
    '\n' ∉ text.toList := by
  have hlegible := isLegible_of_mem_constructors node hnode
  have hnames : ∀ node ∈ Node.constructors, ∀ a ∈ node.required ++ node.optional,
      '\n' ∉ a.name.toList := by decide
  obtain ⟨literal, hliteral, htext⟩ := Call.requiredArgument_eq_ok.1 h
  -- what is inserted as code is a row of names, or null
  have hfield : ∃ field ∈ node.schema, field.key = a.key ∧ (a.raw = true →
      field.shape = .dottedName ∨ field.shape = .optional .dottedName) := by
    rcases List.mem_append.1 ha with hrequired | hoptional
    · obtain ⟨field, hfield, hkey, hraw⟩ := hlegible.required a hrequired
      exact ⟨field, hfield, hkey, fun hcode => .inl ((hraw hcode).resolve_left hother)⟩
    · obtain ⟨field, hfield, hkey, hraw⟩ := hlegible.optional a hoptional
      exact ⟨field, hfield, hkey, fun hcode => .inr (hraw hcode).1⟩
  obtain ⟨field, hfield, hkey, hraw⟩ := hfield
  obtain ⟨v, hv, hvfits⟩ := hfits.get? hlegible.keys hfield
  rw [hkey] at hv
  have hplain : '\n' ∉ literal := by
    have hnull : ∀ {v : Value}, v.IsLiteral → ∀ {text}, v.codeText = .ok text → '\n' ∉ text :=
      Value.not_mem_codeText (by decide)
    rw [fed_eq hv] at hliteral
    cases hcode : a.raw with
    | false =>
      rw [hcode] at hliteral
      exact hnull (Shape.isConstant_of_fits hvfits).isLiteral hliteral
    | true =>
      rw [hcode, if_pos rfl] at hliteral
      have hdotted : v = .null ∨ Shape.dottedName.Fits v := by
        rcases hraw hcode with hshape | hshape <;> rw [hshape] at hvfits
        · exact .inr hvfits
        · exact hvfits
      rcases hdotted with rfl | ⟨s, rfl, hs⟩
      · exact hnull .null hliteral
      · obtain rfl := Except.ok.inj hliteral
        exact Text.not_mem_of_dottedParts hs (by decide) (by decide)
  rw [htext]
  cases positional with
  | true => exact hplain
  | false => simpa using ⟨hnames node hnode a ha, hplain⟩

/-- An argument list begins with the user's code, if there is any, and stands on a single line
    otherwise. -/
theorem exists_arguments {given : Value} {settings : Entries}
    (hsettings : node.schema.parseValue node.typeKey given = .ok settings) {arguments : String}
    (h : Call.arguments (node.required.map (·.fed settings)) (node.optional.map (·.fed settings))
      node.suppressed node.positional = .ok arguments) :
    ∃ user back, arguments = user ++ back ∧ '\n' ∉ back.toList ∧
      (user = "" ∨ user ∈ Node.codesIn node.schema settings) := by
  have hfits := Schema.fits_of_parseValue hsettings
  have hlegible := isLegible_of_mem_constructors node hnode
  obtain ⟨first, hfirst, h⟩ := Result.bind_eq_ok.1 h
  obtain ⟨second, hsecond, h⟩ := Result.bind_eq_ok.1 h
  obtain rfl := Except.ok.inj h
  have hsingle : (∀ a ∈ node.optional, a.key ≠ "params") →
      ∀ text ∈ second, '\n' ∉ text.toList := by
    refine fun hothers => Result.forall_mem_of_mapM hsecond fun argument hargument text htext => ?_
    obtain ⟨a, ha, rfl⟩ := List.mem_map.1 (List.mem_filter.1 hargument).1
    exact not_mem_argument hnode hfits (List.mem_append_right _ ha) (hothers a ha) htext
  rcases cases_params hnode with hnone | ⟨⟨a, hrequired, hkey, hraw⟩, hothers, hfield⟩
  · obtain ⟨hfront, hothers⟩ := List.forall_mem_append.1 hnone
    refine ⟨"", _, String.empty_append.symm, Text.not_mem_commas ?_, .inl rfl⟩
    refine List.forall_mem_append.2 ⟨?_, hsingle hothers⟩
    refine Result.forall_mem_of_mapM hfirst fun argument hargument text htext => ?_
    obtain ⟨a, ha, rfl⟩ := List.mem_map.1 hargument
    exact not_mem_argument hnode hfits (List.mem_append_left _ ha) (hfront a ha) htext
  · obtain ⟨field, hfield, hparams, hshape⟩ := hfield
    obtain ⟨v, hv, hvfits⟩ := hfits.get? hlegible.keys hfield
    rw [hshape] at hvfits
    obtain ⟨s, rfl, -⟩ := hvfits
    rw [hparams] at hv
    have htext : settings.text "params" = s := by
      unfold Entries.text
      rw [hv]
    have huser : s ∈ Node.codesIn node.schema settings :=
      htext ▸ Node.text_mem_codesIn hfield (hshape ▸ rfl) hparams settings
    -- the user's code is the first argument, and it is inserted as it is
    rw [hrequired, hlegible.positional] at hfirst
    obtain ⟨text, _, hown, hnil, rfl⟩ := Result.mapM_cons_eq_ok.1 hfirst
    obtain rfl := Except.ok.inj hnil
    obtain ⟨literal, hliteral, hlist⟩ := Call.requiredArgument_eq_ok.1 hown
    rw [fed_eq (hkey ▸ hv), hraw, if_pos rfl] at hliteral
    obtain rfl := Except.ok.inj hliteral
    obtain rfl : text = s := String.toList_inj.1 hlist
    by_cases hlast : second = []
    · exact ⟨text, "", by simp [hlast], List.not_mem_nil, .inr huser⟩
    · refine ⟨text, ", " ++ ", ".intercalate second, ?_, ?_, .inr huser⟩
      · exact (String.intercalate_cons_of_ne_nil hlast).trans String.append_assoc
      · rw [String.toList_append, List.mem_append, not_or]
        exact ⟨by decide, Text.not_mem_commas (hsingle hothers)⟩

/-- A call of a node type holds no import line if the user's code in it does not. -/
theorem occurrences_eq_zero {line : String} (hline : line ∈ Node.importLines) {given : Value}
    {inside : Inside} {settings : Entries} {code : String}
    (hsettings : node.schema.parseValue node.typeKey given = .ok settings)
    (hcode : node.emit given inside = .ok code)
    (huser : ∀ code ∈ Node.codesIn node.schema settings, occurrences line code = 0) :
    occurrences line code = 0 := by
  obtain ⟨arguments, harguments, htext⟩ := emitValid_eq_ok (emitValid_of_emit hsettings hcode)
  obtain ⟨user, back, rfl, hback, hown⟩ := exists_arguments hnode hsettings harguments
  have hsplit : code = assignment settings ++ node.callee ++ "(" ++ user ++ (back ++ ")") := by
    apply String.toList_inj.1
    rw [htext]
    simp
  have huser : occurrences line user = 0 := by
    rcases hown with rfl | hmem
    · rfl
    · exact huser user hmem
  have hcallee : ∀ node ∈ Node.constructors, '\n' ∉ node.callee.toList := by decide
  have hassignment : '\n' ∉ (assignment settings).toList := by
    rcases assignment_of_parseValue hnode hsettings with ⟨-, hnone⟩ | ⟨name, -, hname, htext⟩
    · rw [hnone]
      exact List.not_mem_nil
    · rw [htext, String.toList_append, List.mem_append, not_or]
      exact ⟨Text.not_mem_of_isName hname (by decide), by decide⟩
  -- the parentheses stand on the first and on the last line
  have hopen := Node.not_mem_of_mem_foreignMarks hline (c := '(') (by decide)
  have hclose := Node.not_mem_of_mem_foreignMarks hline (c := ')') (by decide)
  refine Fragment.occurrences_around hsplit huser ?_ ?_ (b := '(') ?_ hopen.1 hopen.2 (c := ')') ?_
    hclose.1 hclose.2
  · simp [hassignment, hcallee node hnode]
  · simp [hback]
  · simp
  · simp

end call

end ConstructorNode

end LayerGraph
