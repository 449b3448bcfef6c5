import LayerGraph.Node.Catalog
import LayerGraph.Program
import LayerGraph.Proofs.Fragment.Blocks
import LayerGraph.Proofs.Node.Templates
import LayerGraph.Proofs.Parts
import LayerGraph.Proofs.Rendering
import LayerGraph.Proofs.Setting.Given

/-! # The user's code inside of templates

    Four node types put code that they are given into a class, a function or a loop of their own.
    Each is described by its *frame*: the lines of its template in their order, with blocks between
    them that embed the given code. A layer of such a type is turned into code exactly if its
    settings are accepted, and the code has exactly the lines of its frame
    (`emits_framed_code`). So no line of the user's leaves its block, none is lost, and nothing in
    it means anything to the template.
-/

namespace LayerGraph

open Fragment (Embeds indentWidth stack)
open Text (lines unlines isBlankText)

theorem Entries.text_cons (key s : String) (rest : Entries) (name : String) :
    Entries.text ((key, .str s) :: rest) name = if name = key then s else rest.text name := by
  unfold text
  by_cases h : name = key
  · rw [if_pos h, h, get?_cons_self]
  · rw [if_neg h, get?_cons_of_ne h]

namespace Node

/-- The digits of an integer stand on one line. -/
theorem not_mem_of_integerText {n : Int} {digits : List Char} (h : integerText n = .ok digits) :
    '\n' ∉ digits := by
  have hdigits : '\n' ∉ Nat.toDigits 10 n.natAbs := fun hmem =>
    absurd (Nat.isDigit_of_mem_toDigits (by decide) (by decide) hmem) (by decide)
  unfold integerText at h
  split at h
  · exact absurd h nofun
  · obtain rfl := Except.ok.inj h
    split
    · rw [List.mem_cons]
      exact fun hmem => hmem.elim (by decide) hdigits
    · exact hdigits

theorem firstEmpty_eq_none {settings : Entries} {keys : List String} :
    Dataset.firstEmpty settings keys = none ↔ ∀ key ∈ keys, settings.texts key ≠ [] := by
  unfold Dataset.firstEmpty
  simp

/-! ### Data sets -/

namespace Dataset

/-- The settings that must not be empty. -/
def parameterKeys : List String := ["constructorParams", "lenParams", "getitemParams"]

/-- The code of a method as it stands in the class. -/
def methodBody (settings : Entries) (key : String) : List Char :=
  Fragment.bodyChars (Text.trimBreaks (settings.text key).toList)

/-- The lines of a class around the code of its methods. -/
def Frames (settings : Entries) (ls : List (List Char)) : Prop :=
  ∃ init len item,
    ls = ("class " ++ settings.text "className" ++ "(Dataset):").toList ::
      ("    def __init__(" ++ settings.commaTexts "constructorParams" ++ "):").toList :: init ++
      [] :: ("    def __len__(" ++ settings.commaTexts "lenParams" ++ "):").toList :: len ++
      [] :: ("    def __getitem__(" ++ settings.commaTexts "getitemParams" ++ "):").toList :: item ∧
    Embeds 8 (methodBody settings "initCode") init ∧
    Embeds 8 (methodBody settings "lenCode") len ∧
    Embeds 8 (methodBody settings "getitemCode") item

/-- The texts that a class is made of. -/
def texts (settings : Entries) : List String :=
  ["class " ++ settings.text "className" ++ "(Dataset):",
   "    def __init__(" ++ settings.commaTexts "constructorParams" ++ "):",
   Fragment.body (settings.text "initCode") 2, "",
   "    def __len__(" ++ settings.commaTexts "lenParams" ++ "):",
   Fragment.body (settings.text "lenCode") 2, "",
   "    def __getitem__(" ++ settings.commaTexts "getitemParams" ++ "):",
   Fragment.body (settings.text "getitemCode") 2]

theorem emitValid_of_none {settings : Entries} (h : firstEmpty settings parameterKeys = none) :
    emitValid settings = .ok (stack (texts settings)) := by
  unfold parameterKeys at h
  unfold emitValid
  rw [h]
  dsimp only
  rw [renderSource_text Dataset.segments]
  · apply congrArg Except.ok
    apply String.toList_inj.1
    simp [texts, Segment.filled, Entries.text_cons, stack]
  · simp [Entries.get?, List.lookup]

theorem emitValid_eq_ok {settings : Entries} {code : String} :
    emitValid settings = .ok code ↔
      (∀ key ∈ parameterKeys, settings.texts key ≠ []) ∧ code = stack (texts settings) := by
  rw [← firstEmpty_eq_none]
  cases h : firstEmpty settings parameterKeys with
  | none =>
    rw [emitValid_of_none h, Except.ok.injEq, eq_comm]
    exact (and_iff_right rfl).symm
  | some key =>
    have hrefused : emitValid settings = refuse (.invalidSetting typeKey key .noParameter) := by
      unfold parameterKeys at h
      unfold emitValid
      rw [h]
    rw [hrefused]
    exact ⟨nofun, fun hnone => absurd hnone.1 nofun⟩

theorem embeds_method {settings : Entries} {key : String} {block : List (List Char)} :
    Embeds 8 (methodBody settings key) block ↔
      block = lines (Fragment.body (settings.text key) 2).toList :=
  Fragment.embeds_iff_lines_indent (methodBody settings key) 2 block

/-- The names in the class stand on single lines. -/
theorem not_mem_settings {given : Value} {settings : Entries}
    (h : schema.parseValue typeKey given = .ok settings) :
    '\n' ∉ (settings.text "className").toList ∧
      ∀ key ∈ parameterKeys, '\n' ∉ (settings.commaTexts key).toList := by
  have hfits := Schema.fits_of_parseValue h
  have hkeys : schema.keys.Nodup := by decide
  refine ⟨Schema.not_mem_text hfits hkeys (List.getElem_mem (n := 0) (by decide)) rfl rfl, ?_⟩
  simp only [parameterKeys, List.forall_mem_cons]
  exact ⟨Schema.not_mem_commaTexts hfits hkeys (List.getElem_mem (n := 1) (by decide)) rfl rfl,
    Schema.not_mem_commaTexts hfits hkeys (List.getElem_mem (n := 3) (by decide)) rfl rfl,
    Schema.not_mem_commaTexts hfits hkeys (List.getElem_mem (n := 5) (by decide)) rfl rfl, nofun⟩

theorem frames_iff {given : Value} {settings : Entries}
    (h : schema.parseValue typeKey given = .ok settings) {code : String} :
    code = stack (texts settings) ↔ Frames settings (lines code.toList) := by
  obtain ⟨hclass, hparams⟩ := not_mem_settings h
  simp only [parameterKeys, List.forall_mem_cons] at hparams
  obtain ⟨hinit, hlen, hitem, -⟩ := hparams
  rw [Fragment.eq_stack_iff (by simp [texts])]
  simp only [texts, List.flatMap_cons, List.flatMap_nil, Frames, embeds_method]
  rw [Fragment.lines_around (by decide) hclass (by decide),
    Fragment.lines_around (by decide) hinit (by decide),
    Fragment.lines_around (by decide) hlen (by decide),
    Fragment.lines_around (by decide) hitem (by decide)]
  constructor
  · intro hlines
    refine ⟨_, _, _, ?_, rfl, rfl, rfl⟩
    rw [hlines]
    simp [Text.lines_nil]
  · rintro ⟨_, _, _, hlines, rfl, rfl, rfl⟩
    rw [hlines]
    simp [Text.lines_nil]

end Dataset

/-! ### Reports -/

namespace Report

/-- The condition of a report, without blanks at its ends. -/
def condition (settings : Entries) : List Char :=
  Text.trim (settings.text "reportCondition").toList

/-- The statements of a report, without line breaks at their ends. -/
def statements (settings : Entries) : List Char :=
  Text.trimBreaks (settings.text "reportStatements").toList

/-- A report of nothing, or under no condition. -/
def IsIdle (settings : Entries) : Prop :=
  condition settings = [] ∨ isBlankText (statements settings) = true

/-- The line at the end of a report. -/
def ending (settings : Entries) : List String :=
  if settings.flag "resetRunningLoss" then ["    running_loss = 0."] else []

/-- The lines of a report around its statements. -/
def Frames (settings : Entries) (ls : List (List Char)) : Prop :=
  ∃ block,
    ls = ("if " ++ String.ofList (condition settings) ++ ":").toList :: block ++
      (ending settings).map String.toList ∧
    Embeds 4 (statements settings) block

/-- The texts that a report is made of. -/
def texts (settings : Entries) : List String :=
  ("if " ++ String.ofList (condition settings) ++ ":") ::
    Fragment.indent (String.ofList (statements settings)) 1 :: ending settings

theorem reset_eq (settings : Entries) :
    reset settings = String.join ((ending settings).map ("\n" ++ ·)) := by
  have hline : Fragment.indent "running_loss = 0." 1 = "    running_loss = 0." := by decide
  unfold reset ending
  rw [hline]
  split <;> rfl

theorem isIdle_iff {settings : Entries} :
    IsIdle settings ↔ ((condition settings).isEmpty ||
      Fragment.isBlank (Fragment.trimBreaks (settings.text "reportStatements"))) = true := by
  unfold IsIdle Fragment.isBlank Fragment.trimBreaks
  rw [Bool.or_eq_true, List.isEmpty_iff, String.toList_ofList]
  rfl

theorem emitValid_of_idle {settings : Entries} (h : IsIdle settings) :
    emitValid settings = .ok "" := by
  unfold emitValid
  exact if_pos (isIdle_iff.1 h)

/-- What is done about a report under a condition of several lines, and about one of a single
    line. -/
theorem emitValid_of_busy {settings : Entries} (h : ¬IsIdle settings) :
    emitValid settings =
      if (condition settings).contains '\n' then
        refuse (.invalidSetting typeKey "reportCondition" .manyLines)
      else .ok (stack (texts settings)) := by
  have hrendered : renderSource typeKey template
      [("condition", .str (String.ofList (condition settings))),
       ("statements", .str (Fragment.indent (String.ofList (statements settings)) 1)),
       ("reset", .str (reset settings))] = .ok (stack (texts settings)) := by
    rw [renderSource_text Report.segments]
    · apply congrArg Except.ok
      apply String.toList_inj.1
      rw [reset_eq]
      unfold texts ending
      split <;> simp [Segment.filled, Entries.text_cons, stack]
    · simp [Entries.get?, List.lookup]
  rw [← hrendered]
  unfold emitValid
  exact if_neg fun hidle => h (isIdle_iff.2 hidle)

theorem emitValid_eq_ok {settings : Entries} {code : String} :
    emitValid settings = .ok code ↔
      (IsIdle settings ∧ code = "") ∨
        (¬IsIdle settings ∧ '\n' ∉ condition settings ∧ code = stack (texts settings)) := by
  by_cases hidle : IsIdle settings
  · rw [emitValid_of_idle hidle, Except.ok.injEq, eq_comm]
    simp [hidle]
  · rw [emitValid_of_busy hidle]
    by_cases hbreak : '\n' ∈ condition settings
    · rw [if_pos (List.contains_iff_mem.2 hbreak)]
      simp [hidle, hbreak, refuse]
    · rw [if_neg (fun h => hbreak (List.contains_iff_mem.1 h)), Except.ok.injEq, eq_comm]
      simp [hidle, hbreak]

theorem frames_iff {settings : Entries} (h : '\n' ∉ condition settings) {code : String} :
    code = stack (texts settings) ↔ Frames settings (lines code.toList) := by
  have hembeds := Fragment.embeds_iff_lines_indent (statements settings) 1
  have hending : (ending settings).flatMap (lines ·.toList) =
      (ending settings).map String.toList := by
    unfold ending
    split
    · decide
    · rfl
  rw [Fragment.eq_stack_iff (by simp [texts])]
  unfold texts Frames
  rw [List.flatMap_cons, List.flatMap_cons, hending,
    Fragment.lines_around (by decide) (by rwa [String.toList_ofList]) (by decide)]
  constructor
  · intro hlines
    exact ⟨_, hlines, (hembeds _).2 rfl⟩
  · rintro ⟨block, hlines, hblock⟩
    rw [hlines, (hembeds block).1 hblock]
    rfl

end Report

/-! ### One epoch -/

namespace Epoch

/-- The settings that must not be empty. -/
def variableKeys : List String :=
  ["destructureDataVariables", "modelInputOrder", "modelOutputVariables", "lossFunctionInputs"]

/-- The codes that hold more than blanks, without line breaks at their ends. -/
def reports (codes : List String) : List (List Char) :=
  (codes.map fun code => Text.trimBreaks code.toList).filter (!isBlankText ·)

/-- The lines of the function in front of the report. -/
def head (settings : Entries) : List String :=
  ["def " ++ settings.text "functionName" ++
     "(epoch_index, optimizer, dataloader, model, loss_fn):",
   "    running_loss = 0.", "    last_loss = 0.", "",
   "    for batch_no, data in enumerate(dataloader):",
   "        " ++ settings.commaTexts "destructureDataVariables" ++ " = data",
   "        optimizer.zero_grad()",
   "        " ++ settings.commaTexts "modelOutputVariables" ++ " = model(" ++
     settings.commaTexts "modelInputOrder" ++ ")",
   "        loss = loss_fn(" ++ settings.commaTexts "lossFunctionInputs" ++ ")",
   "        loss.backward()", "        optimizer.step()", "        running_loss += loss.item()"]

/-- The lines of the function behind the report. -/
def tail : List String := ["", "    return last_loss"]

/-- The lines of a function around the report that the layers inside make. -/
def Frames (settings : Entries) (codes : List String) (ls : List (List Char)) : Prop :=
  ∃ block,
    ls = (head settings).map String.toList ++ block ++ tail.map String.toList ∧
    ((reports codes = [] ∧ block = []) ∨
      (reports codes ≠ [] ∧ Embeds 8 (unlines (reports codes)) block))

/-- The report as it stands in the function, if there is one. -/
def report (codes : List String) : List String :=
  if reports codes = [] then []
  else [Fragment.indent (String.ofList (unlines (reports codes))) 2]

/-- The texts that a function is made of. -/
def texts (settings : Entries) (codes : List String) : List String :=
  head settings ++ report codes ++ tail

theorem stack_reports (codes : List String) :
    stack ((codes.map Fragment.trimBreaks).filter (!Fragment.isBlank ·)) =
      String.ofList (unlines (reports codes)) := by
  rw [← String.toList_inj, Fragment.toList_stack, String.toList_ofList]
  unfold reports Fragment.isBlank Fragment.trimBreaks
  simp [List.filter_map, Function.comp_def]

/-- Reports make a text, unless there are none. -/
theorem unlines_reports_eq_nil {codes : List String} :
    unlines (reports codes) = [] ↔ reports codes = [] := by
  refine ⟨fun h => ?_, fun h => by rw [h]; rfl⟩
  cases hreports : reports codes with
  | nil => rfl
  | cons first rest =>
    have hmem : first ∈ reports codes := hreports ▸ List.mem_cons_self
    have hsolid : isBlankText first = false := by simpa using (List.mem_filter.1 hmem).2
    cases first with
    | nil => exact absurd hsolid (by decide)
    | cons c cs =>
      have hc : c ∈ unlines (reports codes) := Text.mem_unlines_of_mem hmem List.mem_cons_self
      rw [h] at hc
      exact absurd hc List.not_mem_nil

theorem reportCode_eq (codes : List String) :
    reportCode (codes.map Fragment.trimBreaks) = String.join ((report codes).map ("\n" ++ ·)) := by
  have hempty : (String.ofList (unlines (reports codes))).isEmpty = true ↔ reports codes = [] := by
    rw [← unlines_reports_eq_nil, String.isEmpty_iff, String.ofList_eq_empty_iff]
  simp only [reportCode]
  rw [stack_reports]
  unfold report
  by_cases h : reports codes = []
  · rw [if_pos (hempty.2 h), if_pos h]
    rfl
  · rw [if_neg (fun he => h (hempty.1 he)), if_neg h]
    simp

theorem renderSource_eq_stack (settings : Entries) (codes : List String) :
    renderSource typeKey template
      [("function_name", .str (settings.text "functionName")),
       ("destructure", .str (settings.commaTexts "destructureDataVariables")),
       ("model_outputs", .str (settings.commaTexts "modelOutputVariables")),
       ("model_inputs", .str (settings.commaTexts "modelInputOrder")),
       ("loss_inputs", .str (settings.commaTexts "lossFunctionInputs")),
       ("report_code", .str (reportCode (codes.map Fragment.trimBreaks)))] =
      .ok (stack (texts settings codes)) := by
  rw [renderSource_text Epoch.segments]
  · apply congrArg Except.ok
    apply String.toList_inj.1
    rw [reportCode_eq]
    unfold texts head tail report
    -- the literals are long, and are opened by a lemma rather than evaluated
    split
    · simp [-String.reduceToList, Segment.filled, Entries.text_cons, stack]
      repeat rw [String.toList_ofList]
      rfl
    · simp [-String.reduceToList, Segment.filled, Entries.text_cons, stack]
      repeat rw [String.toList_ofList]
      simp
  · simp [Entries.get?, List.lookup]

theorem emitValid_eq_ok {settings : Entries} {inside : Inside} {code : String} :
    emitValid settings inside = .ok code ↔
      (∀ key ∈ variableKeys, settings.texts key ≠ []) ∧
        ∃ parts codes, inside.parts = .ok parts ∧ parts.mapM (·.code) = .ok codes ∧
          code = stack (texts settings codes) := by
  rw [← firstEmpty_eq_none]
  unfold variableKeys emitValid
  split
  · next key hkey =>
    rw [hkey]
    exact ⟨nofun, fun h => absurd h.1 nofun⟩
  · next hnone =>
    refine Iff.trans ?_ (and_iff_right hnone).symm
    constructor
    · intro h
      obtain ⟨parts, hparts, h⟩ := Result.bind_eq_ok.1 h
      obtain ⟨trimmed, hblocks, h⟩ := Result.bind_eq_ok.1 h
      obtain ⟨codes, hcodes, rfl⟩ := Result.mapM_map_eq_ok.1 hblocks
      rw [renderSource_eq_stack] at h
      exact ⟨parts, codes, Result.mapError_eq_ok.1 hparts, hcodes, (Except.ok.inj h).symm⟩
    · rintro ⟨parts, codes, hparts, hcodes, rfl⟩
      refine Result.bind_eq_ok.2 ⟨parts, Result.mapError_eq_ok.2 hparts, ?_⟩
      have hblocks : blocks parts = .ok (codes.map Fragment.trimBreaks) :=
        Result.mapM_map_eq_ok.2 ⟨codes, hcodes, rfl⟩
      exact Result.bind_eq_ok.2 ⟨_, hblocks, renderSource_eq_stack settings codes⟩

/-- The lines in front of the report are single lines. -/
theorem not_mem_head {given : Value} {settings : Entries}
    (h : schema.parseValue typeKey given = .ok settings) :
    ∀ text ∈ head settings, '\n' ∉ text.toList := by
  have hfits := Schema.fits_of_parseValue h
  have hkeys : schema.keys.Nodup := by decide
  have hname : '\n' ∉ (settings.text "functionName").toList :=
    Schema.not_mem_text hfits hkeys (List.getElem_mem (n := 0) (by decide)) rfl rfl
  have hdata : '\n' ∉ (settings.commaTexts "destructureDataVariables").toList :=
    Schema.not_mem_commaTexts hfits hkeys (List.getElem_mem (n := 1) (by decide)) rfl rfl
  have hinputs : '\n' ∉ (settings.commaTexts "modelInputOrder").toList :=
    Schema.not_mem_commaTexts hfits hkeys (List.getElem_mem (n := 2) (by decide)) rfl rfl
  have houtputs : '\n' ∉ (settings.commaTexts "modelOutputVariables").toList :=
    Schema.not_mem_commaTexts hfits hkeys (List.getElem_mem (n := 3) (by decide)) rfl rfl
  have hloss : '\n' ∉ (settings.commaTexts "lossFunctionInputs").toList :=
    Schema.not_mem_commaTexts hfits hkeys (List.getElem_mem (n := 4) (by decide)) rfl rfl
  simp [head, hname, hdata, hinputs, houtputs, hloss]

theorem lines_head {given : Value} {settings : Entries}
    (h : schema.parseValue typeKey given = .ok settings) :
    (head settings).flatMap (lines ·.toList) = (head settings).map String.toList :=
  Fragment.flatMap_lines_of_not_mem (not_mem_head h)

theorem frames_iff {given : Value} {settings : Entries}
    (h : schema.parseValue typeKey given = .ok settings) {codes : List String} {code : String} :
    code = stack (texts settings codes) ↔ Frames settings codes (lines code.toList) := by
  have hembeds := Fragment.embeds_iff_lines_indent (unlines (reports codes)) 2
  have htail : tail.flatMap (lines ·.toList) = tail.map String.toList := by decide
  rw [Fragment.eq_stack_iff (by simp [texts, head])]
  unfold texts Frames report
  rw [List.flatMap_append, List.flatMap_append, lines_head h, htail]
  by_cases hnone : reports codes = []
  · rw [if_pos hnone]
    simp [hnone]
  · rw [if_neg hnone, List.flatMap_singleton]
    constructor
    · intro hlines
      exact ⟨_, hlines, Or.inr ⟨hnone, (hembeds _).2 rfl⟩⟩
    · rintro ⟨block, hlines, ⟨hempty, _⟩ | ⟨_, hblock⟩⟩
      · exact absurd hempty hnone
      · rw [hlines, (hembeds block).1 hblock]
        rfl

end Epoch

/-! ### All epochs -/

namespace Trainer

/-- The user's code at the end of the loop, without line breaks at its ends. -/
def extra (settings : Entries) : List Char :=
  Text.trimBreaks (settings.text "additionalCode").toList

/-- The lines of the loop in front of the user's code. -/
def head (settings : Entries) (epochs : List Char) : List String :=
  ["for epoch_index in range(" ++ String.ofList epochs ++ "):",
   "    " ++ settings.text "modelVariable" ++ ".train(True)",
   "    " ++ settings.text "avgLossVariable" ++ " = " ++ settings.text "trainFunctionName" ++
     "(epoch_index, " ++ settings.text "optimizerVariable" ++ ", " ++
     settings.text "dataloaderVariable" ++ ", " ++ settings.text "modelVariable" ++ ", " ++
     settings.text "lossFunctionVariable" ++ ")"]

/-- The lines of a loop around the user's code. -/
def Frames (settings : Entries) (epochs : List Char) (ls : List (List Char)) : Prop :=
  ∃ block,
    ls = (head settings epochs).map String.toList ++ block ∧
    ((isBlankText (extra settings) = true ∧ block = []) ∨
      (isBlankText (extra settings) = false ∧ Embeds 4 (extra settings) block))

/-- The user's code as it stands in the loop, if there is any. -/
def ending (settings : Entries) : List String :=
  if isBlankText (extra settings) = true then []
  else [Fragment.indent (String.ofList (extra settings)) 1]

/-- The texts that a loop is made of. -/
def texts (settings : Entries) (epochs : List Char) : List String :=
  head settings epochs ++ ending settings

theorem additional_eq (settings : Entries) :
    additional settings = String.join ((ending settings).map ("\n" ++ ·)) := by
  simp only [additional]
  unfold ending Fragment.isBlank Fragment.trimBreaks extra
  rw [String.toList_ofList]
  split
  · rfl
  · simp

theorem exists_epochs {given : Value} {settings : Entries}
    (h : schema.parseValue typeKey given = .ok settings) :
    ∃ n : Int, settings.get? "numEpochs" = some (.int n) ∧ 0 < n := by
  obtain ⟨v, hv, n, rfl, hn⟩ := (Schema.fits_of_parseValue h).get? (by decide)
    (List.getElem_mem (n := 0) (by decide))
  exact ⟨n, hv, by simpa [Bound.admitsInt] using hn _ List.mem_cons_self⟩

/-- The values for the template of the loop but the number of epochs. -/
def names (settings : Entries) : Entries :=
  [("model", .str (settings.text "modelVariable")),
   ("avg_loss", .str (settings.text "avgLossVariable")),
   ("train_fn", .str (settings.text "trainFunctionName")),
   ("optimizer", .str (settings.text "optimizerVariable")),
   ("dataloader", .str (settings.text "dataloaderVariable")),
   ("loss_fn", .str (settings.text "lossFunctionVariable")),
   ("additional", .str (additional settings))]

theorem display_int (n : Int) : (Value.int n).display = String.ofList <$> integerText n := by
  unfold Value.display Value.quoted
  simp only [Value.layout]
  rfl

section epochs
variable {settings : Entries} {n : Int} (h : settings.get? "numEpochs" = some (.int n))
include h

theorem emitValid_eq_renderSource :
    emitValid settings =
      renderSource typeKey template (("num_epochs", .int n) :: names settings) := by
  unfold emitValid
  rw [h, Option.getD_some]
  rfl

/-- The number of epochs is written out if there is code at all. -/
theorem exists_integerText {code : String} (hcode : emitValid settings = .ok code) :
    ∃ epochs, integerText n = .ok epochs := by
  rw [emitValid_eq_renderSource h, renderSource_eq Trainer.segments,
    Template.render_eq (by simp [names, Entries.get?, List.lookup])] at hcode
  obtain ⟨texts, htexts, _⟩ := Result.map_eq_ok.1 (Result.mapError_eq_ok.1 hcode)
  obtain ⟨first, hfirst⟩ := Result.mapM_isOk_iff.1 ⟨texts, htexts⟩ _ List.mem_cons_self
  obtain ⟨shown, hshown, _⟩ := Result.bind_eq_ok.1 hfirst
  rw [display_int] at hshown
  obtain ⟨epochs, hepochs, _⟩ := Result.map_eq_ok.1 hshown
  exact ⟨epochs, hepochs⟩

theorem emitValid_of_integerText {epochs : List Char} (hepochs : integerText n = .ok epochs) :
    emitValid settings = .ok (stack (texts settings epochs)) := by
  have hnumber : (Value.int n).display = .ok (String.ofList epochs) := by
    rw [display_int]
    exact Result.map_eq_ok.2 ⟨epochs, hepochs, rfl⟩
  let shown (name : String) : String :=
    if name = "num_epochs" then String.ofList epochs else (names settings).text name
  have hshown : ∀ name ∈ ["num_epochs", "model", "avg_loss", "train_fn", "optimizer",
      "dataloader", "model", "loss_fn", "additional"],
      ∃ v, Entries.get? (("num_epochs", .int n) :: names settings) name = some v ∧
        v.display = .ok (shown name) := by
    have htext : ∀ s : String, (Value.str s).display = .ok s := fun _ => rfl
    simp [shown, names, Entries.text_cons, Entries.get?, List.lookup, hnumber, htext]
  rw [emitValid_eq_renderSource h, renderSource_shown Trainer.segments _ hshown]
  apply congrArg Except.ok
  apply String.toList_inj.1
  simp only [shown, names, additional_eq, texts, ending]
  split <;> simp [Segment.filled, Entries.text_cons, stack, head]

theorem emitValid_eq_ok {code : String} :
    emitValid settings = .ok code ↔
      ∃ epochs, integerText n = .ok epochs ∧ code = stack (texts settings epochs) := by
  constructor
  · intro hcode
    obtain ⟨epochs, hepochs⟩ := exists_integerText h hcode
    rw [emitValid_of_integerText h hepochs] at hcode
    exact ⟨epochs, hepochs, (Except.ok.inj hcode).symm⟩
  · rintro ⟨epochs, hepochs, rfl⟩
    exact emitValid_of_integerText h hepochs

end epochs

/-- The lines in front of the user's code are single lines. -/
theorem not_mem_head {given : Value} {settings : Entries}
    (h : schema.parseValue typeKey given = .ok settings) {n : Int} {epochs : List Char}
    (hepochs : integerText n = .ok epochs) : ∀ text ∈ head settings epochs, '\n' ∉ text.toList := by
  have hfits := Schema.fits_of_parseValue h
  have hkeys : schema.keys.Nodup := by decide
  have hfunction : '\n' ∉ (settings.text "trainFunctionName").toList :=
    Schema.not_mem_text hfits hkeys (List.getElem_mem (n := 1) (by decide)) rfl rfl
  have hoptimizer : '\n' ∉ (settings.text "optimizerVariable").toList :=
    Schema.not_mem_text hfits hkeys (List.getElem_mem (n := 2) (by decide)) rfl rfl
  have hloader : '\n' ∉ (settings.text "dataloaderVariable").toList :=
    Schema.not_mem_text hfits hkeys (List.getElem_mem (n := 3) (by decide)) rfl rfl
  have hmodel : '\n' ∉ (settings.text "modelVariable").toList :=
    Schema.not_mem_text hfits hkeys (List.getElem_mem (n := 4) (by decide)) rfl rfl
  have hloss : '\n' ∉ (settings.text "lossFunctionVariable").toList :=
    Schema.not_mem_text hfits hkeys (List.getElem_mem (n := 5) (by decide)) rfl rfl
  have haverage : '\n' ∉ (settings.text "avgLossVariable").toList :=
    Schema.not_mem_text hfits hkeys (List.getElem_mem (n := 6) (by decide)) rfl rfl
  have hnumber : '\n' ∉ epochs := not_mem_of_integerText hepochs
  simp [head, hfunction, hoptimizer, hloader, hmodel, hloss, haverage, hnumber]

theorem lines_head {given : Value} {settings : Entries}
    (h : schema.parseValue typeKey given = .ok settings) {n : Int} {epochs : List Char}
    (hepochs : integerText n = .ok epochs) :
    (head settings epochs).flatMap (lines ·.toList) =
      (head settings epochs).map String.toList :=
  Fragment.flatMap_lines_of_not_mem (not_mem_head h hepochs)

theorem frames_iff {given : Value} {settings : Entries}
    (h : schema.parseValue typeKey given = .ok settings) {n : Int} {epochs : List Char}
    (hepochs : integerText n = .ok epochs) {code : String} :
    code = stack (texts settings epochs) ↔ Frames settings epochs (lines code.toList) := by
  have hembeds := Fragment.embeds_iff_lines_indent (extra settings) 1
  rw [Fragment.eq_stack_iff (by simp [texts, head])]
  unfold texts Frames ending
  rw [List.flatMap_append, lines_head h hepochs]
  cases hblank : isBlankText (extra settings) with
  | true => simp
  | false =>
    rw [if_neg nofun, List.flatMap_singleton]
    constructor
    · intro hlines
      exact ⟨_, hlines, Or.inr ⟨rfl, (hembeds _).2 rfl⟩⟩
    · rintro ⟨block, hlines, ⟨hempty, _⟩ | ⟨_, hblock⟩⟩
      · exact absurd hempty nofun
      · rw [hlines, (hembeds block).1 hblock]
        rfl

end Trainer

/-! ### All four -/

/-- A layer that must hold nothing is turned into code exactly if it holds nothing, its settings are
    accepted, and there is code for them. -/
theorem emit_eq_ok {nodeType code : String} {inside : Inside} {parsed : Except Failure Entries}
    {emitValid : Entries → Except Failure String} :
    (refuseChild nodeType inside >>= fun _ => parsed >>= emitValid) = .ok code ↔
      inside.given = false ∧
        ∃ settings, parsed = .ok settings ∧ emitValid settings = .ok code := by
  rw [Result.bind_eq_ok]
  constructor
  · rintro ⟨done, hdone, h⟩
    exact ⟨refuseChild_eq_ok.1 hdone, Result.bind_eq_ok.1 h⟩
  · rintro ⟨hgiven, h⟩
    exact ⟨(), refuseChild_eq_ok.2 hgiven, Result.bind_eq_ok.2 h⟩

section emitted
variable {given : Value} {inside : Inside} {code : String}

theorem Dataset.emit_eq_ok_iff :
    Dataset.emit given inside = .ok code ↔
      inside.given = false ∧
        ∃ settings, Dataset.schema.parseValue Dataset.typeKey given = .ok settings ∧
          (∀ key ∈ Dataset.parameterKeys, settings.texts key ≠ []) ∧
            Dataset.Frames settings (lines code.toList) := by
  refine emit_eq_ok.trans (and_congr_right fun _ => exists_congr fun settings => ?_)
  refine and_congr_right fun hsettings => ?_
  rw [Dataset.emitValid_eq_ok, Dataset.frames_iff hsettings]

theorem Report.emit_eq_ok_iff :
    Report.emit given inside = .ok code ↔
      inside.given = false ∧
        ∃ settings, Report.schema.parseValue Report.typeKey given = .ok settings ∧
          ((Report.IsIdle settings ∧ code = "") ∨
            (¬Report.IsIdle settings ∧ '\n' ∉ Report.condition settings ∧
              Report.Frames settings (lines code.toList))) := by
  refine emit_eq_ok.trans (and_congr_right fun _ => exists_congr fun settings => ?_)
  refine and_congr_right fun _ => ?_
  rw [Report.emitValid_eq_ok]
  refine or_congr_right (and_congr_right fun _ => and_congr_right fun hline => ?_)
  exact Report.frames_iff hline

/-- The number of epochs is an integer in any case, but a long one cannot be written out. -/
theorem Trainer.emit_eq_ok_iff :
    Trainer.emit given inside = .ok code ↔
      inside.given = false ∧
        ∃ settings, Trainer.schema.parseValue Trainer.typeKey given = .ok settings ∧
          ∃ n epochs, settings.get? "numEpochs" = some (.int n) ∧ integerText n = .ok epochs ∧
            Trainer.Frames settings epochs (lines code.toList) := by
  refine emit_eq_ok.trans (and_congr_right fun _ => exists_congr fun settings => ?_)
  refine and_congr_right fun hsettings => ?_
  obtain ⟨n, hn, _⟩ := Trainer.exists_epochs hsettings
  rw [Trainer.emitValid_eq_ok hn]
  constructor
  · rintro ⟨epochs, hepochs, hcode⟩
    exact ⟨n, epochs, hn, hepochs, (Trainer.frames_iff hsettings hepochs).1 hcode⟩
  · rintro ⟨m, epochs, hm, hepochs, hframes⟩
    obtain rfl : n = m := Value.int.inj (Option.some.inj (hn.symm.trans hm))
    exact ⟨epochs, hepochs, (Trainer.frames_iff hsettings hepochs).2 hframes⟩

/-- A function for one epoch also needs the codes of the layers that it holds. -/
theorem Epoch.emit_eq_ok_iff {resolve : Resolver} {layers : List Layer}
    (hparts : inside.parts = .ok (Layer.parts resolve layers)) :
    Epoch.emit given inside = .ok code ↔
      ∃ settings, Epoch.schema.parseValue Epoch.typeKey given = .ok settings ∧
        (∀ key ∈ Epoch.variableKeys, settings.texts key ≠ []) ∧
          ∃ codes, Program.fragments resolve layers = .ok codes ∧
            Epoch.Frames settings codes (lines code.toList) := by
  refine Result.bind_eq_ok.trans (exists_congr fun settings => ?_)
  refine and_congr_right fun hsettings => ?_
  rw [Epoch.emitValid_eq_ok]
  refine and_congr_right fun _ => ?_
  constructor
  · rintro ⟨parts, codes, hparts', hcodes, hcode⟩
    obtain rfl : Layer.parts resolve layers = parts := Except.ok.inj (hparts.symm.trans hparts')
    exact ⟨codes, hcodes, (Epoch.frames_iff hsettings).1 hcode⟩
  · rintro ⟨codes, hcodes, hframes⟩
    exact ⟨_, codes, hparts, hcodes, (Epoch.frames_iff hsettings).2 hframes⟩

end emitted

/-- The code of data sets, reports, training functions and loops.

    A layer of these types is turned into code exactly if its settings are accepted: they are valid,
    the lists of names that must not be empty are not, the condition of a report is a single line,
    and the number of epochs can be written out. The lines of the code are then those of the frame:
    the template's own lines in their order, and between them blocks in which each line that is not
    blank begins with eight or four spaces, and which give back the user's code without the line
    breaks at its ends when the spaces are taken away. A method without code does nothing; a report
    of nothing, and the end of a loop without further code, are left out; and what stands in the
    function for one epoch are the codes of the layers inside, one below the other. The user's code
    is what was given, character by character. -/
theorem emits_framed_code :
    (∀ given inside code, Dataset.emit given inside = .ok code ↔
      inside.given = false ∧
        ∃ settings, Dataset.schema.parseValue Dataset.typeKey given = .ok settings ∧
          (∀ key ∈ Dataset.parameterKeys, settings.texts key ≠ []) ∧
            Dataset.Frames settings (lines code.toList)) ∧
    (∀ given inside code, Report.emit given inside = .ok code ↔
      inside.given = false ∧
        ∃ settings, Report.schema.parseValue Report.typeKey given = .ok settings ∧
          ((Report.IsIdle settings ∧ code = "") ∨
            (¬Report.IsIdle settings ∧ '\n' ∉ Report.condition settings ∧
              Report.Frames settings (lines code.toList)))) ∧
    (∀ given inside code, Trainer.emit given inside = .ok code ↔
      inside.given = false ∧
        ∃ settings, Trainer.schema.parseValue Trainer.typeKey given = .ok settings ∧
          ∃ n epochs, settings.get? "numEpochs" = some (.int n) ∧ integerText n = .ok epochs ∧
            Trainer.Frames settings epochs (lines code.toList)) ∧
    (∀ resolve given inside layers code, inside.parts = .ok (Layer.parts resolve layers) →
      (Epoch.emit given inside = .ok code ↔
        ∃ settings, Epoch.schema.parseValue Epoch.typeKey given = .ok settings ∧
          (∀ key ∈ Epoch.variableKeys, settings.texts key ≠ []) ∧
            ∃ codes, Program.fragments resolve layers = .ok codes ∧
              Epoch.Frames settings codes (lines code.toList))) ∧
    (∀ schema ∈ [Dataset.schema, Report.schema, Trainer.schema], ∀ nodeType given settings,
      (given.map (·.1)).Nodup → schema.parseValue nodeType (.ofEntries given) = .ok settings →
        ∀ field ∈ schema, field.shape = .text → ∀ s, (field.key, .str s) ∈ given →
          settings.text field.key = s) := by
  refine ⟨fun _ _ _ => Dataset.emit_eq_ok_iff, fun _ _ _ => Report.emit_eq_ok_iff,
    fun _ _ _ => Trainer.emit_eq_ok_iff, fun _ _ _ _ _ => Epoch.emit_eq_ok_iff, ?_⟩
  -- what is checked to be a text is passed on as it was given
  intro schema hschema nodeType given settings hdistinct hsettings field hfield hshape s hs
  have hkeys : ∀ schema ∈ [Dataset.schema, Report.schema, Trainer.schema],
      schema.keys.Nodup := by decide
  exact Schema.text_of_given hdistinct hsettings (hkeys schema hschema) hfield hshape hs

/-- Statements with braces, a blank line and an indentation of their own. -/
def bracedStatements : String := "\nif \x7bloss\x7d:\n \n    pass\n"

/-- Settings with such statements. -/
def bracedSettings : Entries := [("reportStatements", .str bracedStatements)]

/-- What these settings are when they are validated. -/
def bracedReport : Entries :=
  [("reportCondition", .str "batch_no % 1000 == 999"), ("reportStatements", .str bracedStatements),
   ("resetRunningLoss", .bool true)]

theorem parseValue_bracedSettings :
    Report.schema.parseValue Report.typeKey (.ofEntries bracedSettings) = .ok bracedReport := by
  refine Schema.parseValue_of_checked _ (by decide) (by decide) ?_
  exact .cons ⟨rfl, rfl⟩ (.cons ⟨rfl, rfl⟩ (.cons ⟨rfl, rfl⟩ .nil))

theorem emit_bracedSettings (inside : Inside) (h : inside.given = false) :
    Report.emit (.ofEntries bracedSettings) inside = .ok (stack (Report.texts bracedReport)) := by
  have hidle : ¬Report.IsIdle bracedReport := by
    rw [Report.isIdle_iff]
    decide
  have hline : '\n' ∉ Report.condition bracedReport := by decide
  refine emit_eq_ok.2 ⟨h, bracedReport, parseValue_bracedSettings, ?_⟩
  exact Report.emitValid_eq_ok.2 (Or.inr ⟨hidle, hline, rfl⟩)

/-- A layer of such a report. -/
def bracedLayer : Layer := .mk "ReportLoss" (some bracedSettings) .none

/-- The settings of a function for one epoch, if none are given. -/
def plainEpoch : Entries :=
  [("functionName", .str "train_one_epoch"),
   ("destructureDataVariables", Dataset.names ["inputs", "labels"]),
   ("modelInputOrder", Dataset.names ["inputs"]),
   ("modelOutputVariables", Dataset.names ["outputs"]),
   ("lossFunctionInputs", Dataset.names ["outputs", "labels"])]

theorem parseValue_plainEpoch :
    Epoch.schema.parseValue Epoch.typeKey .null = .ok plainEpoch := by
  show Epoch.schema.parseValue _ (.ofEntries []) = _
  refine Schema.parseValue_of_checked _ nofun (by decide) ?_
  exact .cons ⟨rfl, by cbv⟩ (.cons ⟨rfl, by cbv⟩ (.cons ⟨rfl, by cbv⟩
    (.cons ⟨rfl, by cbv⟩ (.cons ⟨rfl, by cbv⟩ .nil))))

/-- The statements are read as they are given, and a report of them stands in the function for one
    epoch. -/
theorem emits_framed_code_braced :
    bracedReport.text "reportStatements" = bracedStatements ∧
      ∃ settings codes, Epoch.schema.parseValue Epoch.typeKey .null = .ok settings ∧
        Program.fragments (fun _ => .ok Report.plugin) [bracedLayer] = .ok codes ∧
          codes = [stack (Report.texts bracedReport)] ∧
            Epoch.Frames settings codes (lines (stack (Epoch.texts settings codes)).toList) := by
  obtain ⟨_, _, _, hepoch, hgiven⟩ := emits_framed_code
  refine ⟨?_, ?_⟩
  · exact hgiven Report.schema (by simp) Report.typeKey bracedSettings bracedReport
      (by simp [bracedSettings]) parseValue_bracedSettings Report.schema[1] (List.getElem_mem _)
      rfl bracedStatements List.mem_cons_self
  · have hcode : (bracedLayer.part fun _ => .ok Report.plugin).code =
        .ok (stack (Report.texts bracedReport)) := by
      unfold Part.code
      rw [Layer.part_codeUnder]
      exact emit_bracedSettings (Child.none.inside fun _ => .ok Report.plugin) rfl
    have hcodes : [bracedLayer.part fun _ => .ok Report.plugin].mapM (·.code) =
        .ok [stack (Report.texts bracedReport)] :=
      Result.mapM_cons_eq_ok.2 ⟨_, [], hcode, rfl, rfl⟩
    have hemit : Epoch.emit .null ((Child.one bracedLayer).inside fun _ => .ok Report.plugin) =
        .ok (stack (Epoch.texts plainEpoch [stack (Report.texts bracedReport)])) := by
      refine Result.bind_eq_ok.2 ⟨plainEpoch, parseValue_plainEpoch, ?_⟩
      refine Epoch.emitValid_eq_ok.2 ⟨?_, _, _, rfl, hcodes, rfl⟩
      simp [Epoch.variableKeys, plainEpoch, Entries.texts, Entries.get?, List.lookup,
        Dataset.names, Value.text?]
    obtain ⟨settings, hsettings, _, codes, hfragments, hframes⟩ :=
      (hepoch _ .null _ [bracedLayer] _ rfl).1 hemit
    obtain rfl : plainEpoch = settings :=
      Except.ok.inj (parseValue_plainEpoch.symm.trans hsettings)
    obtain rfl : [stack (Report.texts bracedReport)] = codes :=
      Except.ok.inj (hcodes.symm.trans hfragments)
    exact ⟨plainEpoch, _, hsettings, hfragments, rfl, hframes⟩

end Node

end LayerGraph
