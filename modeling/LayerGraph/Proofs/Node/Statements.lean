import LayerGraph.Proofs.Flow.Comments
import LayerGraph.Proofs.Node.Attributes
import LayerGraph.Proofs.Node.Embedding
import LayerGraph.Proofs.Node.Forward

/-! # Statements below headers

    The code of a data set, a module and a report has headers with blocks of the user's code below
    them. Code that is blank is replaced by a statement, or the header is left out with it. So a
    block holds a statement, unless the user's code is comments only: nothing is put below the
    comments, but for the line at the end of a report (`blocks_hold_statements`).
-/

namespace LayerGraph.Node

open Fragment (Block blockBelow? holdStatement isComment stack)
open Text (lines isBlankText)

/-! ### Methods -/

/-- The first line of a method. -/
def methodHeader (name params : String) : String := "    def " ++ name ++ "(" ++ params ++ "):"

/-- A method of a class: its name, its parameters and its statements. -/
structure Method where
  name : String
  params : String
  code : String

namespace Method

/-- The first line of a method. -/
def header (m : Method) : String := methodHeader m.name m.params

/-- A method with its statements, and with a gap below. -/
def block (m : Method) (gap : List (List Char)) : Block where
  header := m.header.toList
  inner := lines (Fragment.indent m.code 2).toList ++ gap

/-- Methods one below the other, with an empty line between two of them. -/
def blocks : List Method → List Block
  | [] => []
  | [last] => [last.block []]
  | first :: second :: rest => first.block [[]] :: blocks (second :: rest)

@[simp] theorem header_block (m : Method) (gap : List (List Char)) :
    (m.block gap).header = m.header.toList := by
  unfold block
  dsimp only

theorem header_toList (m : Method) : m.header.toList =
    "    def ".toList ++ (m.name.toList ++ '(' :: (m.params ++ "):").toList) := by
  simp [header, methodHeader]

theorem indentation_header (m : Method) : Fragment.indentation m.header.toList = 4 := by
  rw [header_toList]
  rfl

/-- Methods of different names have different headers. -/
theorem header_ne {m m' : Method} (hne : m.name ≠ m'.name) (hname : '(' ∉ m.name.toList)
    (hname' : '(' ∉ m'.name.toList) : m.header.toList ≠ m'.header.toList := by
  intro h
  rw [header_toList, header_toList] at h
  have hsame := (Text.append_cons_inj hname hname' (List.append_cancel_left h)).1
  exact hne (String.toList_inj.1 hsame)

section gap
variable {gap : List (List Char)} (hgap : ∀ line ∈ gap, isBlankText line = true)
include hgap

theorem standsAt_block (m : Method) : (m.block gap).StandsAt 4 where
  solid := by
    rw [header_block, header_toList]
    rfl
  width_eq := by rw [header_block, indentation_header]
  below := by
    intro line hline
    rw [header_block]
    rcases List.mem_append.1 hline with hline | hline
    · have hless : Fragment.indentation m.header.toList < Fragment.indentWidth * 2 := by
        rw [indentation_header]
        decide
      exact Fragment.isBelow_of_mem_indent hless hline
    · unfold Fragment.isBelow
      rw [hgap line hline, Bool.true_or]

/-- The gap below a method is no statement. -/
theorem holdStatement_gap (ls : List (List Char)) :
    holdStatement (ls ++ gap) = holdStatement ls := by
  have hnone : holdStatement gap = false := by
    refine List.any_eq_false.2 fun line hline => ?_
    rw [Fragment.isIdle_of_isBlankText (hgap line hline)]
    exact nofun
  rw [Fragment.holdStatement_append, hnone, Bool.or_false]

end gap

theorem map_header_blocks (methods : List Method) :
    (blocks methods).map (·.header) = methods.map (·.header.toList) := by
  induction methods using blocks.induct with
  | case1 => rfl
  | case2 => rfl
  | case3 first second rest ih => exact congrArg (first.header.toList :: ·) ih

/-- The blocks of methods are theirs, with blank gaps. -/
theorem mem_blocks {methods : List Method} {block : Block} (h : block ∈ blocks methods) :
    ∃ m ∈ methods, ∃ gap, (∀ line ∈ gap, isBlankText line = true) ∧ block = m.block gap := by
  induction methods using blocks.induct with
  | case1 => exact absurd h List.not_mem_nil
  | case2 last => exact ⟨last, List.mem_cons_self, [], nofun, List.mem_singleton.1 h⟩
  | case3 first second rest ih =>
    rcases List.mem_cons.1 h with rfl | h
    · exact ⟨first, List.mem_cons_self, [[]], List.forall_mem_singleton.2 rfl, rfl⟩
    · obtain ⟨m, hm, hblock⟩ := ih h
      exact ⟨m, List.mem_cons_of_mem _ hm, hblock⟩

theorem exists_mem_blocks {methods : List Method} {m : Method} (hm : m ∈ methods) :
    ∃ gap, (∀ line ∈ gap, isBlankText line = true) ∧ m.block gap ∈ blocks methods := by
  induction methods using blocks.induct with
  | case1 => exact absurd hm List.not_mem_nil
  | case2 last =>
    obtain rfl := List.mem_singleton.1 hm
    exact ⟨[], nofun, List.mem_cons_self⟩
  | case3 first second rest ih =>
    rcases List.mem_cons.1 hm with rfl | hm
    · exact ⟨[[]], List.forall_mem_singleton.2 rfl, List.mem_cons_self⟩
    · obtain ⟨gap, hgap, hmem⟩ := ih hm
      exact ⟨gap, hgap, List.mem_cons_of_mem _ hmem⟩

/-- Below the header of each method of a class stand its statements. -/
theorem blockBelow?_of_mem (top : List Char) {methods : List Method}
    (htop : top.head? ≠ some ' ') (hnames : ∀ m ∈ methods, '(' ∉ m.name.toList)
    (hdistinct : (methods.map (·.name)).Nodup) {m : Method} {gap : List (List Char)}
    (hmem : m.block gap ∈ blocks methods) :
    blockBelow? m.header.toList (top :: (blocks methods).flatMap Block.all) =
      some (lines (Fragment.indent m.code 2).toList ++ gap) := by
  have hblocks : ∀ block ∈ blocks methods, block.StandsAt 4 := by
    intro block hblock
    obtain ⟨own, -, gap, hgap, rfl⟩ := mem_blocks hblock
    exact own.standsAt_block hgap
  have hoff : ∀ block ∈ blocks methods, block.header ∉ [top] := by
    intro block hblock hmem
    obtain ⟨own, -, gap, -, rfl⟩ := mem_blocks hblock
    rw [← List.mem_singleton.1 hmem] at htop
    refine htop ?_
    rw [header_block, header_toList]
    rfl
  have hheaders : ((blocks methods).map (·.header)).Nodup := by
    rw [map_header_blocks]
    refine List.pairwise_map.2 ((List.pairwise_map.1 hdistinct).imp_of_mem fun ha hb hne => ?_)
    exact header_ne hne (hnames _ ha) (hnames _ hb)
  have hfound := Block.blockBelow?_of_mem hblocks hoff hheaders hmem
  rw [header_block] at hfound
  exact hfound

end Method

/-! ### Data sets -/

namespace Dataset

/-- The names of the methods of a data set, and the keys of their parameters and of their code. -/
def methodKeys : List (String × String × String) :=
  [("__init__", "constructorParams", "initCode"), ("__len__", "lenParams", "lenCode"),
   ("__getitem__", "getitemParams", "getitemCode")]

/-- The method with a name and keys. -/
def method (settings : Entries) (keys : String × String × String) : Method :=
  ⟨keys.1, settings.commaTexts keys.2.1, String.ofList (methodBody settings keys.2.2)⟩

theorem lines_code {given : Value} {settings : Entries}
    (h : schema.parseValue typeKey given = .ok settings) :
    lines (stack (texts settings)).toList =
      ("class " ++ settings.text "className" ++ "(Dataset):").toList ::
        (Method.blocks (methodKeys.map (method settings))).flatMap Block.all := by
  obtain ⟨init, len, item, hlines, hinit, hlen, hitem⟩ := (frames_iff h).1 rfl
  obtain rfl := embeds_method.1 hinit
  obtain rfl := embeds_method.1 hlen
  obtain rfl := embeds_method.1 hitem
  rw [hlines]
  simp [methodKeys, method, Method.blocks, Method.block, Method.header, methodHeader, Block.all,
    Fragment.body, methodBody]

/-- Below the header of each method stands its code. -/
theorem exists_blockBelow? {given : Value} {settings : Entries}
    (h : schema.parseValue typeKey given = .ok settings) {keys : String × String × String}
    (hkeys : keys ∈ methodKeys) : ∃ block,
      blockBelow? (methodHeader keys.1 (settings.commaTexts keys.2.1)).toList
          (lines (stack (texts settings)).toList) = some block ∧
        holdStatement block = !isComment (settings.text keys.2.2) := by
  have hnames : ∀ m ∈ methodKeys.map (method settings), '(' ∉ m.name.toList := by
    refine List.forall_mem_map.2 fun keys hkeys => ?_
    have hall : ∀ keys ∈ methodKeys, '(' ∉ keys.1.toList := by decide
    exact hall keys hkeys
  have hdistinct : ((methodKeys.map (method settings)).map (·.name)).Nodup := by
    rw [List.map_map]
    show (methodKeys.map (·.1)).Nodup
    decide
  obtain ⟨gap, hgap, hmem⟩ := Method.exists_mem_blocks (List.mem_map_of_mem hkeys)
  have hblock := Method.blockBelow?_of_mem
    ("class " ++ settings.text "className" ++ "(Dataset):").toList (by simp) hnames hdistinct hmem
  refine ⟨_, (lines_code h).symm ▸ hblock, ?_⟩
  rw [Method.holdStatement_gap hgap]
  exact Fragment.holdStatement_body (settings.text keys.2.2) 2

end Dataset

/-! ### Modules -/

namespace Module

/-- The parameters of a method, after the module itself. -/
def params (settings : Entries) (key : String) : String :=
  ", ".intercalate ("self" :: settings.texts key)

/-- The methods of a module. -/
def methods (settings : Entries) (bound : List (String × String)) (flow : String) : List Method :=
  [⟨"__init__", params settings "constructorParams",
    stack ("super().__init__()" :: bound.map binding)⟩,
   ⟨"forward", params settings "forwardParams",
    String.ofList (Fragment.bodyChars (Text.trimBreaks flow.toList))⟩]

/-- The names in the class stand on single lines. -/
theorem not_mem_settings {given : Value} {settings : Entries}
    (h : schema.parseValue typeKey given = .ok settings) :
    '\n' ∉ (settings.text "className").toList ∧
      '\n' ∉ (params settings "constructorParams").toList ∧
        '\n' ∉ (params settings "forwardParams").toList := by
  have hfits := Schema.fits_of_parseValue h
  have hkeys : schema.keys.Nodup := by decide
  have hparams : ∀ key, (∀ x ∈ settings.texts key, Text.isName x = true) →
      '\n' ∉ (params settings key).toList := by
    intro key hnames
    refine Text.not_mem_commas (List.forall_mem_cons.2 ⟨by decide, fun x hx => ?_⟩)
    exact Text.not_mem_of_isName (hnames x hx) (by decide)
  refine ⟨Schema.not_mem_text hfits hkeys (List.getElem_mem (n := 0) (by decide)) rfl rfl,
    hparams "constructorParams" fun x hx => ?_, hparams "forwardParams" fun x hx => ?_⟩
  · exact Schema.isName_of_mem_texts hfits hkeys (List.getElem_mem (n := 1) (by decide)) rfl rfl hx
  · exact Schema.isName_of_mem_texts hfits hkeys (List.getElem_mem (n := 2) (by decide)) rfl rfl hx

theorem lines_code {given : Value} {settings : Entries}
    (h : schema.parseValue typeKey given = .ok settings) (bound : List (String × String))
    (flow : String) : lines (stack (texts settings bound flow)).toList =
      ("class " ++ settings.text "className" ++ "(nn.Module):").toList ::
        (Method.blocks (methods settings bound flow)).flatMap Block.all := by
  obtain ⟨hclass, hinit, hforward⟩ := not_mem_settings h
  rw [Fragment.lines_stack (by simp [texts])]
  simp only [texts, List.flatMap_cons, List.flatMap_nil]
  unfold params at hinit hforward
  rw [Fragment.lines_around (by decide) hclass (by decide),
    Fragment.lines_around (by decide) hinit (by decide),
    Fragment.lines_around (by decide) hforward (by decide)]
  simp [methods, params, Method.blocks, Method.block, Method.header, methodHeader, Block.all,
    Fragment.body, Text.lines_nil]

/-- Below the header of each method stand its statements. -/
theorem blockBelow?_of_mem {given : Value} {settings : Entries}
    (h : schema.parseValue typeKey given = .ok settings) (bound : List (String × String))
    (flow : String) {m : Method} {gap : List (List Char)}
    (hmem : m.block gap ∈ Method.blocks (methods settings bound flow)) :
    blockBelow? m.header.toList (lines (stack (texts settings bound flow)).toList) =
      some (lines (Fragment.indent m.code 2).toList ++ gap) := by
  have hnames : (methods settings bound flow).map (·.name) = ["__init__", "forward"] := rfl
  have hopen : ∀ m ∈ methods settings bound flow, '(' ∉ m.name.toList := by
    intro m hm
    have hname : m.name ∈ ["__init__", "forward"] := hnames ▸ List.mem_map_of_mem hm
    have hall : ∀ name ∈ ["__init__", "forward"], '(' ∉ name.toList := by decide
    exact hall _ hname
  rw [lines_code h]
  exact Method.blockBelow?_of_mem _ (by simp) hopen (hnames ▸ by decide) hmem

/-- The constructor of a module begins with a statement. -/
theorem holdStatement_init (bound : List (String × String)) :
    holdStatement (lines (stack ("super().__init__()" :: bound.map binding)).toList) = true := by
  have hfirst : holdStatement (lines "super().__init__()".toList) = true := by decide
  rw [Fragment.lines_stack (List.cons_ne_nil _ _), List.flatMap_cons,
    Fragment.holdStatement_append, hfirst, Bool.true_or]

/-- The chain of layers ends with a statement, or it is blank. -/
theorem isComment_chain {settings : Entries} {names : List String}
    (hparams : ∀ x ∈ settings.texts "forwardParams", Text.isName x = true) :
    isComment (chain settings names) = false := by
  unfold chain
  split
  · next x hx =>
    have hbreak : '\n' ∉ ("return " ++ x).toList := by
      rw [String.toList_append, List.mem_append, not_or]
      refine ⟨by decide, Text.not_mem_of_isName (hparams x ?_) (by decide)⟩
      rw [hx]
      exact List.mem_cons_self
    have hlast : holdStatement (lines ("return " ++ x).toList) = true := by
      rw [Fragment.lines_of_not_mem hbreak, String.toList_append]
      rfl
    unfold isComment
    rw [Fragment.lines_stack (by simp), List.flatMap_append, List.flatMap_singleton,
      Fragment.holdStatement_append, hlast, Bool.or_true, Bool.not_true, Bool.and_false]
  · rfl

/-- The statements of `forward` are comments only exactly if the data flow is. -/
theorem isComment_of_forward {settings : Entries} {names : List String} {flow : String}
    (hparams : ∀ x ∈ settings.texts "forwardParams", Text.isName x = true)
    (hself : "self" ∉ names) (hflow : forward settings names = .ok flow) :
    isComment flow = isComment (settings.text "dataFlow") := by
  rw [forward_eq] at hflow
  split at hflow
  · next hblank =>
    obtain rfl := Except.ok.inj hflow
    have hnone : isComment (settings.text "dataFlow") = false := by
      unfold isComment
      rw [hblank]
      rfl
    rw [hnone, isComment_chain hparams]
  · exact Flow.isComment_of_bind hself (Result.mapError_eq_ok.1 hflow)

end Module

/-! ### Reports -/

namespace Report

/-- The first line of a report. -/
def header (settings : Entries) : String := "if " ++ String.ofList (condition settings) ++ ":"

/-- A report with its statements. -/
def block (settings : Entries) : Block where
  header := (header settings).toList
  inner := lines (Fragment.indent (String.ofList (statements settings)) (1 : Nat)).toList ++
    (ending settings).map String.toList

@[simp] theorem header_block (settings : Entries) :
    (block settings).header = (header settings).toList := by
  unfold block
  dsimp only

theorem indentation_header (settings : Entries) :
    Fragment.indentation (header settings).toList = 0 := by
  unfold header
  rw [String.toList_append, String.toList_append]
  rfl

theorem standsAt_block (settings : Entries) : (block settings).StandsAt 0 where
  solid := by
    rw [header_block]
    unfold header
    rw [String.toList_append, String.toList_append]
    rfl
  width_eq := by rw [header_block, indentation_header]
  below := by
    intro line hline
    rw [header_block]
    rcases List.mem_append.1 hline with hline | hline
    · have hless : Fragment.indentation (header settings).toList < Fragment.indentWidth * 1 := by
        rw [indentation_header]
        decide
      exact Fragment.isBelow_of_mem_indent hless hline
    · have hdeep : ∀ line ∈ (ending settings).map String.toList,
          0 < Fragment.indentation line := by
        unfold ending
        split <;> decide
      have hless : Fragment.indentation (header settings).toList < Fragment.indentation line := by
        rw [indentation_header]
        exact hdeep line hline
      unfold Fragment.isBelow
      rw [decide_eq_true hless, Bool.or_true]

/-- Below the header of a report stand its statements, and what resets the running loss. -/
theorem exists_blockBelow? {settings : Entries} (hidle : ¬IsIdle settings)
    (hline : '\n' ∉ condition settings) : ∃ block,
      blockBelow? (header settings).toList (lines (stack (texts settings)).toList) = some block ∧
        holdStatement block = (!isComment (settings.text "reportStatements") ||
          settings.flag "resetRunningLoss") := by
  obtain ⟨own, hlines, hown⟩ := (frames_iff hline).1 rfl
  obtain rfl := (Fragment.embeds_iff_lines_indent (statements settings) 1 own).1 hown
  have hsolid : Fragment.isBlank (settings.text "reportStatements") = false := by
    unfold Fragment.isBlank
    rw [← Text.isBlankText_trimBreaks]
    exact Bool.eq_false_iff.2 fun hblank => hidle (.inr hblank)
  have hstatements : holdStatement
      (lines (Fragment.indent (String.ofList (statements settings)) (1 : Nat)).toList) =
        !isComment (settings.text "reportStatements") := by
    unfold isComment statements
    rw [Fragment.holdStatement_indent, String.toList_ofList, Fragment.holdStatement_trimBreaks,
      hsolid, Bool.not_false, Bool.true_and, Bool.not_not]
  have hending : holdStatement ((ending settings).map String.toList) =
      settings.flag "resetRunningLoss" := by
    unfold ending
    split
    · next hflag => rw [hflag]; decide
    · next hflag => rw [Bool.eq_false_iff.2 hflag]; rfl
  refine ⟨(block settings).inner, ?_, ?_⟩
  · have hfound := Block.blockBelow?_of_mem (List.forall_mem_singleton.2 (standsAt_block settings))
      (fun _ _ => List.not_mem_nil) (List.pairwise_singleton _ _) List.mem_cons_self
    rw [List.nil_append, List.flatMap_singleton, header_block] at hfound
    rw [hlines, ← hfound]
    unfold Block.all
    rw [header_block]
    rfl
  · show holdStatement (_ ++ _) = _
    rw [Fragment.holdStatement_append, hstatements, hending]

end Report

/-! ### All three -/

/-- The code of data sets, modules and reports has a block below each of its headers, and the block
    holds a statement, unless the user's code is comments only: in a data set the code of the
    method, in a module the data flow, and in a report the statements, if nothing resets the running
    loss. The constructor of a module always holds a statement, and so does what stands for code
    that is blank. -/
theorem blocks_hold_statements (given : Value) (inside : Inside) (code : String) :
    (Dataset.emit given inside = .ok code →
      ∃ settings, Dataset.schema.parseValue Dataset.typeKey given = .ok settings ∧
        ∀ keys ∈ Dataset.methodKeys, ∃ block,
          blockBelow? (methodHeader keys.1 (settings.commaTexts keys.2.1)).toList
              (lines code.toList) = some block ∧
            (holdStatement block = true ↔ isComment (settings.text keys.2.2) = false)) ∧
    (Module.emit given inside = .ok code →
      ∃ settings, Module.schema.parseValue Module.typeKey given = .ok settings ∧
        (∃ block,
          blockBelow? (methodHeader "__init__" (Module.params settings "constructorParams")).toList
              (lines code.toList) = some block ∧
            holdStatement block = true) ∧
        ∃ block,
          blockBelow? (methodHeader "forward" (Module.params settings "forwardParams")).toList
              (lines code.toList) = some block ∧
            (holdStatement block = true ↔ isComment (settings.text "dataFlow") = false)) ∧
    (Report.emit given inside = .ok code →
      ∃ settings, Report.schema.parseValue Report.typeKey given = .ok settings ∧
        (Report.IsIdle settings ∧ code = "" ∨
          ∃ block, blockBelow? (Report.header settings).toList (lines code.toList) = some block ∧
            (holdStatement block = true ↔ settings.flag "resetRunningLoss" = true ∨
              isComment (settings.text "reportStatements") = false))) := by
  refine ⟨?_, ?_, ?_⟩
  · intro hcode
    obtain ⟨-, settings, hsettings, hvalid⟩ := emit_eq_ok.1 hcode
    obtain ⟨-, rfl⟩ := Dataset.emitValid_eq_ok.1 hvalid
    refine ⟨settings, hsettings, fun keys hkeys => ?_⟩
    obtain ⟨block, hblock, hhold⟩ := Dataset.exists_blockBelow? hsettings hkeys
    exact ⟨block, hblock, by rw [hhold, Bool.not_eq_true']⟩
  · intro hcode
    obtain ⟨settings, hsettings, -⟩ := Result.bind_eq_ok.1 hcode
    obtain ⟨parts, bound, flow, -, hbound, hflow, rfl⟩ := Module.exists_of_emit hsettings hcode
    have hself : "self" ∉ bound.map (·.1) := fun hmem =>
      absurd (Module.isAttribute_of_boundParts hbound "self" hmem) (by decide)
    have hparams := Module.isName_of_forwardParams hsettings
    -- an empty line stands between the two methods
    have hinit := Module.blockBelow?_of_mem hsettings bound flow List.mem_cons_self
    have hblock := Module.blockBelow?_of_mem hsettings bound flow
      (List.mem_cons_of_mem _ List.mem_cons_self)
    refine ⟨settings, hsettings, ⟨_, hinit, ?_⟩, _, hblock, ?_⟩
    · rw [Method.holdStatement_gap (List.forall_mem_singleton.2 rfl)]
      exact (Fragment.holdStatement_indent _ 2).trans (Module.holdStatement_init bound)
    · have hforward : holdStatement
          (lines (Fragment.indent (String.ofList (Fragment.bodyChars
            (Text.trimBreaks flow.toList))) 2).toList) = !isComment flow :=
        Fragment.holdStatement_body flow 2
      rw [List.append_nil, hforward,
        Module.isComment_of_forward hparams hself hflow, Bool.not_eq_true']
  · intro hcode
    obtain ⟨-, settings, hsettings, hvalid⟩ := emit_eq_ok.1 hcode
    refine ⟨settings, hsettings, ?_⟩
    rcases Report.emitValid_eq_ok.1 hvalid with hnone | ⟨hidle, hline, rfl⟩
    · exact .inl hnone
    · obtain ⟨block, hblock, hhold⟩ := Report.exists_blockBelow? hidle hline
      refine .inr ⟨block, hblock, ?_⟩
      rw [hhold, Bool.or_eq_true, Bool.not_eq_true', or_comm]

/-- A report of comments only is followed by the line that resets the running loss. -/
theorem blocks_hold_statements_braced :
    ∃ block, blockBelow? (Report.header bracedReport).toList
        (lines (stack (Report.texts bracedReport)).toList) = some block ∧
      holdStatement block = true := by
  have hcode := emit_bracedSettings (Child.none.inside fun _ => .ok Report.plugin) rfl
  obtain ⟨settings, hsettings, hblock⟩ := (blocks_hold_statements _ _ _).2.2 hcode
  obtain rfl := Except.ok.inj (hsettings.symm.trans parseValue_bracedSettings)
  rcases hblock with ⟨-, hempty⟩ | ⟨block, hblock, hhold⟩
  · exact absurd hempty (by decide)
  · exact ⟨block, hblock, hhold.2 (.inl rfl)⟩

/-- Settings of a report of a comment, with nothing that resets the running loss. -/
def commentSettings : Entries :=
  [("reportStatements", .str "# todo"), ("resetRunningLoss", .bool false)]

/-- What these settings are when they are validated. -/
def commentReport : Entries :=
  [("reportCondition", .str "batch_no % 1000 == 999"), ("reportStatements", .str "# todo"),
   ("resetRunningLoss", .bool false)]

theorem parseValue_commentSettings :
    Report.schema.parseValue Report.typeKey (.ofEntries commentSettings) = .ok commentReport := by
  refine Schema.parseValue_of_checked _ (by decide) (by decide) ?_
  exact .cons ⟨rfl, rfl⟩ (.cons ⟨rfl, rfl⟩ (.cons ⟨rfl, rfl⟩ .nil))

/-- Below the header of such a report stands no statement. -/
theorem emit_commentSettings : ∃ code block,
    Report.emit (.ofEntries commentSettings) (Child.none.inside fun _ => .ok Report.plugin) =
        .ok code ∧
      code = "if batch_no % 1000 == 999:\n    # todo" ∧
      blockBelow? "if batch_no % 1000 == 999:".toList (lines code.toList) = some block ∧
      holdStatement block = false := by
  refine ⟨_, ["    # todo".toList],
    emit_eq_ok.2 ⟨rfl, commentReport, parseValue_commentSettings, ?_⟩, rfl, by decide, by decide⟩
  have hidle : ¬Report.IsIdle commentReport := by
    rw [Report.isIdle_iff]
    decide
  refine Report.emitValid_eq_ok.2 (.inr ⟨hidle, by decide, ?_⟩)
  decide

end LayerGraph.Node
