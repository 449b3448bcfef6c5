import LayerGraph.Proofs.Command.Outcome
import LayerGraph.Proofs.Json.Reading
import LayerGraph.Proofs.Program.Fair

/-! # What the command has no words for

    A graph file may hold anything. The command ends with a program, or it reports what is wrong and
    leaves the folder as it is, unless the file holds one of a few things that it has no words for:
    bytes that are no text, a scalar that is not of the type it is said to be, an integer of more
    digits than are ever written out, or what is nested too deeply for the stack. On these the
    command fails without a report (`runs_or_reports`). Every stage is accounted for: what reading
    the file may fail with, and what the layers of the document may fail with, whose plugins are
    fair up to long integers.
-/

namespace LayerGraph

namespace GraphFile

/-- Whether a path is that of a YAML file. -/
def IsYaml (path : Path) : Prop := path.ending = ".yaml" ∨ path.ending = ".yml"

section reading
variable [Stack]

/-- Whether it is left open what becomes of a file: a text in it is none that the theory knows. -/
def IsOpen (path : Path) (content : List UInt8) : Prop :=
  document path content = .error .loneSurrogate

/-- What a graph file can hold that there are no words for, and the failure that comes of it. -/
inductive Unspoken (path : Path) (content : List UInt8) : Failure → Prop where
  /-- The bytes are no text. -/
  | notText (bytes : String.fromUTF8? ⟨content.toArray⟩ = none) : Unspoken path content .notText
  /-- A number in JSON is too long to be read. -/
  | number {text : List Char} (decoded : textOf content = .ok text) (json : path.ending = ".json")
      (long : Json.read text = .error .integerTooLong) :
      Unspoken path content (.noText .integerTooLong)
  /-- A scalar in YAML is not of the type that it is said to be. -/
  | scalar {text : List Char} {fault : ScalarFault} (decoded : textOf content = .ok text)
      (yaml : IsYaml path) (wrong : Yaml.read text = .error (.scalar fault)) :
      Unspoken path content (.scalar fault)
  /-- An integer in YAML is too long to be shown. -/
  | integer {text : List Char} {document : Value} (decoded : textOf content = .ok text)
      (yaml : IsYaml path) (read : Yaml.read text = .ok document)
      (long : document.isShowable = false) : Unspoken path content (.noText .integerTooLong)
  /-- The text is nested too deeply to be read. -/
  | nesting {text : List Char} (decoded : textOf content = .ok text)
      (known : IsYaml path ∨ path.ending = ".json") (deep : Stack.isTooSmallFor text = true) :
      Unspoken path content .stackExhausted
  /-- The layers are nested too deeply to be turned into code. -/
  | layers {document : Value} (read : GraphFile.document path content = .ok document)
      (deep : Stack.isTooSmallToTranslate document = true) : Unspoken path content .stackExhausted

variable {path : Path} {content : List UInt8}

/-! ### Reading a file -/

/-- The document of a file is read from its text as the ending of its name says. -/
theorem document_eq {text : List Char} (h : textOf content = .ok text) :
    document path content =
      if path.ending = ".yaml" ∨ path.ending = ".yml" then ofYaml path.name text
      else if path.ending = ".json" then ofJson path.name text
      else refuse (.invalidGraph
        (.unknownEnding (if path.ending.isEmpty then "(none)" else path.ending)) none none) := by
  unfold document
  rw [h]
  simp only [bind, Except.bind]

theorem isFairUpTo_ofYaml {text : List Char} (htext : textOf content = .ok text)
    (hyaml : IsYaml path) (hclosed : ofYaml path.name text ≠ .error .loneSurrogate) :
    IsFairUpTo (Unspoken path content) (ofYaml path.name text) := by
  unfold ofYaml at hclosed ⊢
  split at hclosed
  · next hdeep =>
    rw [if_pos hdeep]
    exact FailsWith.error (Or.inr (.nesting htext (Or.inl hyaml) hdeep))
  · next hroom =>
    rw [if_neg hroom]
    cases hread : Yaml.read text with
    | ok document => exact FailsWith.ok document
    | error fault =>
      cases fault with
      | malformed => exact FailsWith.error (Or.inl rfl)
      | scalar fault => exact FailsWith.error (Or.inr (.scalar htext hyaml hread))
      | loneSurrogate =>
        rw [hread] at hclosed
        exact absurd rfl hclosed

theorem isFairUpTo_ofJson {text : List Char} (htext : textOf content = .ok text)
    (hjson : path.ending = ".json") (hclosed : ofJson path.name text ≠ .error .loneSurrogate) :
    IsFairUpTo (Unspoken path content) (ofJson path.name text) := by
  unfold ofJson at hclosed ⊢
  split at hclosed
  · next hdeep =>
    rw [if_pos hdeep]
    exact FailsWith.error (Or.inr (.nesting htext (Or.inr hjson) hdeep))
  · next hroom =>
    rw [if_neg hroom]
    cases hread : Json.read text with
    | ok document => exact FailsWith.ok document
    | error fault =>
      cases fault with
      | fault => exact FailsWith.error (Or.inl rfl)
      | integerTooLong => exact FailsWith.error (Or.inr (.number htext hjson hread))
      | loneSurrogate =>
        rw [hread] at hclosed
        exact absurd rfl hclosed

/-- A file holds a document, or is reported, unless there are no words for what it holds. -/
theorem isFairUpTo_document (hclosed : ¬IsOpen path content) :
    IsFairUpTo (Unspoken path content) (document path content) := by
  unfold IsOpen at hclosed
  cases htext : textOf content with
  | error failure =>
    unfold document
    rw [htext]
    unfold textOf at htext
    split at htext
    · exact absurd htext nofun
    · next hbytes =>
      obtain rfl := Except.error.inj htext
      exact FailsWith.error (Or.inr (.notText hbytes))
  | ok text =>
    rw [document_eq htext] at hclosed ⊢
    split at hclosed
    · next hyaml =>
      rw [if_pos hyaml]
      exact isFairUpTo_ofYaml htext hyaml hclosed
    · next hother =>
      rw [if_neg hother]
      split at hclosed
      · next hjson =>
        rw [if_pos hjson]
        exact isFairUpTo_ofJson htext hjson hclosed
      · next hunknown =>
        rw [if_neg hunknown]
        exact IsFairUpTo.refuse rfl

theorem read_of_ofYaml {name : String} {text : List Char} {value : Value}
    (h : ofYaml name text = .ok value) : Yaml.read text = .ok value := by
  unfold ofYaml at h
  split at h
  · exact absurd h nofun
  · cases hread : Yaml.read text with
    | ok document =>
      rw [hread] at h
      exact congrArg Except.ok (Except.ok.inj h)
    | error fault =>
      rw [hread] at h
      cases fault <;> exact absurd h nofun

theorem read_of_ofJson {name : String} {text : List Char} {value : Value}
    (h : ofJson name text = .ok value) : Json.read text = .ok value := by
  unfold ofJson at h
  split at h
  · exact absurd h nofun
  · cases hread : Json.read text with
    | ok document =>
      rw [hread] at h
      exact congrArg Except.ok (Except.ok.inj h)
    | error fault =>
      rw [hread] at h
      cases fault <;> exact absurd h nofun

/-- The document of a file is what is read from its text as YAML or as JSON. -/
theorem read_of_document {value : Value} (h : document path content = .ok value) :
    ∃ text, textOf content = .ok text ∧
      (IsYaml path ∧ Yaml.read text = .ok value ∨ Json.read text = .ok value) := by
  obtain ⟨text, htext, _⟩ := Result.bind_eq_ok.1 h
  refine ⟨text, htext, ?_⟩
  rw [document_eq htext] at h
  split at h
  · next hyaml =>
    exact Or.inl ⟨hyaml, read_of_ofYaml h⟩
  · split at h
    · exact Or.inr (read_of_ofJson h)
    · exact absurd h nofun

/-- A document can be shown, unless it is YAML with an integer that is too long. -/
theorem hasText_document {value : Value} (h : document path content = .ok value) :
    value.HasText (Unspoken path content) := by
  obtain ⟨text, htext, ⟨hyaml, hread⟩ | hread⟩ := read_of_document h
  · intro hspoken
    rw [← Bool.not_eq_false]
    exact fun hlong => hspoken (.integer htext hyaml hread hlong)
  · -- the reader of JSON takes no integer that is too long
    exact .of_isShowable (Value.isShowable_of_isJson (Json.isJson_of_read hread))

/-! ### Its layers -/

theorem isFairUpTo_layers (hclosed : ¬IsOpen path content) :
    IsFairUpTo (Unspoken path content) (layers path content) := by
  refine (isFairUpTo_document hclosed).bind fun document hdocument => ?_
  unfold Document.layersWithin
  split
  · next hdeep => exact FailsWith.error (Or.inr (.layers hdocument hdeep))
  · exact (Program.refuses_layers document).isFair

theorem hasText_of_mem_layers {all : List Layer} (h : layers path content = .ok all) :
    ∀ layer ∈ all, layer.HasText (Unspoken path content) := by
  obtain ⟨document, hdocument, hlayers⟩ := Result.bind_eq_ok.1 h
  unfold Document.layersWithin at hlayers
  split at hlayers
  · exact absurd hlayers nofun
  · exact Document.hasText_of_mem_layers (hasText_document hdocument)
      (Result.mapError_eq_ok.1 hlayers)

end reading

end GraphFile

namespace Command

open GraphFile (Unspoken)

/-! ### Running the command -/

section run
variable {arguments : Arguments} {folder : Folder}

/-- A file that cannot be read is reported. -/
theorem exists_ofFault (path : Path) (fault : FileFault) :
    ∃ outcome, Outcome.ofFault path fault = .ok outcome ∧
      outcome.Reports
        [("kind", .str "io_error"), ("message", .str (fault.message path.text))] := by
  have hverbal : Json.IsVerbal (.ofEntries
      [("kind", .str "io_error"), ("message", .str (fault.message path.text))]) := by
    refine .object (by simp) ?_
    exact List.forall_mem_cons.2 ⟨.str _, List.forall_mem_singleton.2 (.str _)⟩
  obtain ⟨line, hline, hread⟩ := exists_objectLine hverbal
  exact ⟨_, Result.bind_eq_ok.2 ⟨line, hline, rfl⟩, rfl, rfl, rfl, hread⟩

variable [Stack]

/-- A graph file is turned into a program, or refused, unless there are no words for what it
    holds. -/
theorem isFairUpTo_translate {resolve : Resolver} {content : List UInt8}
    (fair : resolve.IsFair (Unspoken (.ofText arguments.graph) content))
    (hclosed : ¬GraphFile.IsOpen (.ofText arguments.graph) content)
    (hformatter : Configuration.formatterNamed arguments.formatter = .ok none) :
    IsFairUpTo (Unspoken (.ofText arguments.graph) content)
      (translate resolve arguments content) := by
  refine (GraphFile.isFairUpTo_layers hclosed).bind fun layers hlayers => ?_
  refine (FailsWith.of_exists ⟨none, hformatter⟩).bind fun formatter _ => ?_
  have htext := GraphFile.hasText_of_mem_layers hlayers
  exact (Program.isFairUpTo_ofLayers fair htext _ formatter).bind fun program _ => FailsWith.ok _

/-- A program is shown, or written if its file can be. -/
theorem run_of_program {resolve : Resolver} {layers : Nat} {program : Program}
    (h : outcome resolve arguments (folder.read (.ofText arguments.graph)) =
      .ok (.ofProgram arguments layers program))
    (hwritable : ∀ file, arguments.output.filter (!·.isEmpty) = some file → ∀ code,
      ∃ after, folder.write (.ofText file) code = .ok after) :
    ∃ outcome after, run resolve arguments folder = .ok (outcome, after) ∧
      outcome.exitCode = 0 := by
  cases hfile : arguments.output.filter (!·.isEmpty) with
  | none =>
    refine ⟨_, folder, run_of_outcome h ?_, ?_⟩
    · unfold Outcome.ofProgram
      rw [hfile]
    · unfold Outcome.ofProgram
      rw [hfile]
  | some file =>
    let code := if program.code.isEmpty then "" else program.code ++ "\n"
    obtain ⟨after, hafter⟩ := hwritable file hfile code.toUTF8.toList
    have hwritten : (Outcome.ofProgram arguments layers program).file =
        some (.ofText file, code) := by
      unfold Outcome.ofProgram
      rw [hfile]
    refine ⟨.ofProgram arguments layers program, after, ?_, ?_⟩
    · unfold run
      rw [h]
      simp only [bind, Except.bind, hwritten, hafter]
      rfl
    · unfold Outcome.ofProgram
      rw [hfile]

/-- What there are no words for is passed on. -/
theorem run_of_failure {resolve : Resolver} {content : List UInt8} {failure : Failure}
    (hread : folder.read (.ofText arguments.graph) = .ok content)
    (h : translate resolve arguments content = .error failure)
    (hother : ∀ error, failure ≠ .graph error) : run resolve arguments folder = .error failure := by
  have houtcome : outcome resolve arguments (.ok content) = .error failure := by
    unfold outcome
    dsimp only
    rw [h]
    cases failure with
    | graph error => exact absurd rfl (hother error)
    | _ => rfl
  unfold run
  rw [hread, houtcome]
  rfl

/-- Bytes that are no text are not turned into anything. -/
theorem translate_notText {resolve : Resolver} {content : List UInt8}
    (h : String.fromUTF8? ⟨content.toArray⟩ = none) :
    translate resolve arguments content = .error .notText := by
  have htext : GraphFile.textOf content = .error .notText := by
    unfold GraphFile.textOf
    rw [h]
  unfold translate GraphFile.layers GraphFile.document
  rw [htext]
  rfl

/-- The command runs, or reports what keeps it from running.

    Whatever the graph file holds and whatever else the command is told, and however much room its
    stack has, it ends with exit code 0, or with exit code 1 and an error object, which is all that
    it shows; in that case the folder is as it was before. It fails only on what there are no words
    for, and on bytes that are no text it always does, whatever the name of the file. -/
theorem runs_or_reports
    (hformatter : Configuration.formatterNamed arguments.formatter = .ok none)
    (hwritable : ∀ file, arguments.output.filter (!·.isEmpty) = some file → ∀ code,
      ∃ after, folder.write (.ofText file) code = .ok after)
    (hclosed : ∀ content, folder.read (.ofText arguments.graph) = .ok content →
      ¬GraphFile.IsOpen (.ofText arguments.graph) content) :
    ((∃ outcome after, run Node.registry.resolve arguments folder = .ok (outcome, after) ∧
        (outcome.exitCode = 0 ∨
          after = folder ∧ ∃ entries kind message, outcome.Reports entries ∧
            TellsError entries kind message)) ∨
      ∃ content failure, folder.read (.ofText arguments.graph) = .ok content ∧
        Unspoken (.ofText arguments.graph) content failure ∧
          run Node.registry.resolve arguments folder = .error failure) ∧
    ∀ content, folder.read (.ofText arguments.graph) = .ok content →
      String.fromUTF8? ⟨content.toArray⟩ = none →
        run Node.registry.resolve arguments folder = .error .notText := by
  refine ⟨?_, fun content hread hbytes => run_of_failure hread (translate_notText hbytes) nofun⟩
  cases hread : folder.read (.ofText arguments.graph) with
  | error fault =>
    -- a file that cannot be read is reported with what the folder says of it
    obtain ⟨result, hresult, hreports⟩ := exists_ofFault (.ofText arguments.graph) fault
    have hrun : run Node.registry.resolve arguments folder = .ok (result, folder) :=
      run_of_outcome (by rwa [hread]) hreports.file
    exact Or.inl ⟨result, folder, hrun, Or.inr ⟨rfl, _, _, _, hreports, tellsError_cons _ _ _⟩⟩
  | ok content =>
    have hfair : IsFairUpTo (Unspoken (.ofText arguments.graph) content)
        (translate Node.registry.resolve arguments content) :=
      isFairUpTo_translate Node.resolve_isFair (hclosed content hread) hformatter
    cases htranslate : translate Node.registry.resolve arguments content with
    | ok result =>
      obtain ⟨layers, program⟩ := result
      have hprogram : outcome Node.registry.resolve arguments
          (folder.read (.ofText arguments.graph)) =
            .ok (.ofProgram arguments layers.length program) := by
        rw [hread, outcome, htranslate]
      obtain ⟨ended, after, hrun, hexit⟩ := run_of_program hprogram hwritable
      exact Or.inl ⟨ended, after, hrun, Or.inl hexit⟩
    | error failure =>
      by_cases hgraph : ∃ error, failure = .graph error
      · obtain ⟨error, rfl⟩ := hgraph
        obtain ⟨result, hresult, hreports⟩ := exists_ofError arguments.graph error
        have hrun : run Node.registry.resolve arguments folder = .ok (result, folder) :=
          run_of_outcome (by rwa [hread, outcome, htranslate]) hreports.file
        exact Or.inl ⟨result, folder, hrun,
          Or.inr ⟨rfl, _, _, _, hreports, error.tellsError⟩⟩
      · -- nobody is to blame, so there are no words for what the file holds
        have hunspoken : Unspoken (.ofText arguments.graph) content failure := by
          refine (hfair failure htranslate).resolve_left fun huser => ?_
          obtain ⟨error, herror, _⟩ := Failure.exists_of_isUser huser
          exact hgraph ⟨error, herror⟩
        have hrun : run Node.registry.resolve arguments folder = .error failure :=
          run_of_failure hread htranslate fun error herror => hgraph ⟨error, herror⟩
        exact Or.inr ⟨content, failure, rfl, hunspoken, hrun⟩

end run

/-- What the command is told on the line `g.json`. -/
def brokenArguments : Arguments := { graph := "g.json", formatter := "none" }

/-- A folder with a file of a single byte that no text begins with. -/
def brokenFolder : Folder := [(["g.json"], [255])]

/-- A JSON file that is no text is not reported. -/
theorem runs_or_reports_broken :
    (Arguments.read "none" ["g.json"]).toOption = some brokenArguments ∧
      run Node.registry.resolve brokenArguments brokenFolder = .error .notText := by
  have hformatter : Configuration.formatterNamed brokenArguments.formatter = .ok none :=
    Configuration.formatterNamed_none
  have hpath : Path.ofText brokenArguments.graph = ⟨false, ["g.json"]⟩ := by decide
  have hread : brokenFolder.read (.ofText brokenArguments.graph) = .ok [255] := by
    rw [hpath]
    rfl
  have hbytes : String.fromUTF8? ⟨[255].toArray⟩ = none := by decide
  have hwritable : ∀ file, brokenArguments.output.filter (!·.isEmpty) = some file → ∀ code,
      ∃ after, brokenFolder.write (.ofText file) code = .ok after := nofun
  have hclosed : ∀ content, brokenFolder.read (.ofText brokenArguments.graph) = .ok content →
      ¬GraphFile.IsOpen (.ofText brokenArguments.graph) content := by
    intro content hcontent hopen
    obtain rfl := Except.ok.inj (hread.symm.trans hcontent)
    unfold GraphFile.IsOpen GraphFile.document GraphFile.textOf at hopen
    rw [hbytes] at hopen
    cases hopen
  exact ⟨by decide, (runs_or_reports hformatter hwritable hclosed).2 _ hread hbytes⟩

end Command

end LayerGraph
