import LayerGraph.Proofs.Node.Builtins
import LayerGraph.Proofs.Node.Templates
import LayerGraph.Proofs.Rendering
import LayerGraph.Proofs.Setting.Fits

/-! # Plugins that blame the graph

    A plugin is *fair* if, given settings that can be shown, whatever makes it fail is the fault of
    the submitted graph. It may count on what stands inside its layer: the parts carry such settings
    too, and their plugins are fair. All built-in plugins are fair (`isFair_of_mem_builtins`). Their
    templates have a value for every placeholder, and every value that they write has a text.

    Like computations, plugins may be fair up to some other failures, which their parts may fail
    with as well. If long integers are among these, settings of any kind will do.
-/

namespace LayerGraph

variable {others : Failure → Prop}

/-! ### Fair parts -/

section sound
variable (others : Failure → Prop)

/-- Standard values that have texts. -/
def Schema.HasStandards (schema : Schema) : Prop :=
  ∀ entry ∈ schema.standards, entry.2.HasText others

/-- A layer whose settings have texts, and whose type, if it has a plugin, has a fair one. -/
structure Part.IsSound (part : Part) : Prop where
  settings : ∀ entry ∈ part.layer.settings.getD [], entry.2.HasText others
  info : RefusesUpTo others part.info
  standards : ∀ info, part.info = .ok info → info.schema.HasStandards others
  code : ∀ given, given.HasText others → IsFairUpTo others (part.codeUnder given)

/-- What a layer holds, if all of it is sound. -/
structure Inside.IsSound (inside : Inside) : Prop where
  parts : RefusesUpTo others inside.parts
  each : ∀ parts, inside.parts = .ok parts → ∀ part ∈ parts, part.IsSound others
  metadata : RefusesUpTo others inside.metadata

/-- A plugin that fails, if it does, with a failure that is expected. -/
def Plugin.IsFair (plugin : Plugin) : Prop :=
  ∀ given inside, given.HasText others → inside.IsSound others →
    IsFairUpTo others (plugin.emit given inside)

end sound

theorem Value.hasText_settingsValue {settings : Option Entries}
    (h : ∀ entry ∈ settings.getD [], entry.2.HasText others) :
    (settingsValue settings).HasText others := by
  cases settings with
  | none => exact .of_isShowable rfl
  | some entries => exact .ofEntries h

/-- The code of a sound part fails only as expected. -/
theorem Part.IsSound.isFair_code {part : Part} (h : part.IsSound others) :
    IsFairUpTo others part.code :=
  h.code _ (Value.hasText_settingsValue h.settings)

theorem isFair_refuseChild (nodeType : String) (inside : Inside) :
    IsFairUpTo others (refuseChild nodeType inside) := by
  unfold refuseChild
  split
  · exact IsFairUpTo.refuse rfl
  · exact FailsWith.ok ()

theorem Value.hasText_str (s : String) : (Value.str s).HasText others := .of_isShowable rfl

/-! ### Constructors -/

namespace ConstructorNode

theorem isWritten_requiredArgument (positional : Bool) {argument : String × Value}
    (htext : argument.2.HasText others) (hplain : argument.2.IsPlain) :
    IsWrittenUpTo others (Call.requiredArgument positional argument) :=
  (htext.isWritten_literal hplain).bind fun _ _ => FailsWith.ok _

/-- Plain arguments that have texts make an argument list. -/
theorem isWritten_arguments {required optional : Entries}
    (hrequired : ∀ argument ∈ required, argument.2.HasText others ∧ argument.2.IsPlain)
    (hoptional : ∀ argument ∈ optional, argument.2.HasText others ∧ argument.2.IsPlain)
    (defaults : Entries) (positional : Bool) :
    IsWrittenUpTo others (Call.arguments required optional defaults positional) := by
  refine FailsWith.bind ?_ fun first _ => FailsWith.bind ?_ fun second _ => FailsWith.ok _
  · refine FailsWith.mapM fun argument hargument => ?_
    obtain ⟨htext, hplain⟩ := hrequired argument hargument
    exact isWritten_requiredArgument positional htext hplain
  · refine FailsWith.mapM fun argument hargument => ?_
    obtain ⟨htext, hplain⟩ := hoptional argument (List.mem_filter.1 hargument).1
    exact isWritten_requiredArgument false htext hplain

/-- An argument that is fed by plain settings is plain, as code too. -/
theorem plain_fed {settings : Entries} (htext : ∀ entry ∈ settings, entry.2.HasText others)
    (hplain : ∀ entry ∈ settings, entry.2.IsPlain) (argument : Argument) :
    (argument.fed settings).2.HasText others ∧ (argument.fed settings).2.IsPlain := by
  have hvalue : ((settings.get? argument.key).getD .null).HasText others ∧
      ((settings.get? argument.key).getD .null).IsPlain :=
    Entries.forall_getD (P := fun v => v.HasText others ∧ v.IsPlain)
      (fun entry hentry => ⟨htext entry hentry, hplain entry hentry⟩)
      ⟨.of_isShowable rfl, .null⟩ argument.key
  unfold Argument.fed
  split
  · generalize (settings.get? argument.key).getD .null = value at hvalue
    cases value with
    | str s => exact ⟨.of_isShowable rfl, .expr s⟩
    | _ => exact hvalue
  · exact hvalue

/-- The call for plain settings that have texts does not fail. -/
theorem isFair_emitValid (node : ConstructorNode) {settings : Entries}
    (htext : ∀ entry ∈ settings, entry.2.HasText others)
    (hplain : ∀ entry ∈ settings, entry.2.IsPlain) :
    IsFairUpTo others (node.emitValid settings) := by
  have hfed : ∀ arguments : List Argument, ∀ argument ∈ arguments.map (·.fed settings),
      argument.2.HasText others ∧ argument.2.IsPlain := by
    intro arguments
    rw [List.forall_mem_map]
    exact fun argument _ => plain_fed htext hplain argument
  have harguments : IsWrittenUpTo others (Call.arguments (node.required.map (·.fed settings))
      (node.optional.map (·.fed settings)) node.suppressed node.positional) :=
    isWritten_arguments (hfed node.required) (hfed node.optional) node.suppressed node.positional
  refine harguments.isFair.bind fun arguments _ => ?_
  refine isFair_renderSource ConstructorNode.segments _ ?_ ?_
  · simp [Entries.get?]
  · simp [Value.hasText_str]

theorem isFair (node : ConstructorNode) (hstandards : node.schema.HasStandards others) :
    node.plugin.IsFair others := by
  intro given inside hgiven _
  refine (isFair_refuseChild _ inside).bind fun _ _ => ?_
  refine (Schema.isFair_parseValue _ _ _).bind fun settings hsettings => ?_
  refine FailsWith.bind ?_ fun _ _ => ?_
  · unfold checkRule
    split
    · exact IsFairUpTo.refuse rfl
    · exact FailsWith.ok ()
  · -- settings that are accepted fit the schema, and so are plain
    have htext := Schema.hasText_of_parseValue hsettings hgiven hstandards
    exact node.isFair_emitValid htext (Schema.fits_of_parseValue hsettings).isPlain

end ConstructorNode

namespace Node

/-! ### Classes and functions around the user's code -/

theorem Dataset.isFair : Dataset.plugin.IsFair others := by
  intro given inside hgiven _
  refine (isFair_refuseChild _ inside).bind fun _ _ => ?_
  refine (Schema.isFair_parseValue _ _ _).bind fun settings _ => ?_
  unfold Dataset.emitValid
  split
  · exact IsFairUpTo.refuse rfl
  · refine isFair_renderSource Dataset.segments _ ?_ ?_
    · simp [Entries.get?]
    · simp [Value.hasText_str]

theorem Report.isFair : Report.plugin.IsFair others := by
  intro given inside hgiven _
  refine (isFair_refuseChild _ inside).bind fun _ _ => ?_
  refine (Schema.isFair_parseValue _ _ _).bind fun settings _ => ?_
  simp only [Report.emitValid]
  split
  · exact FailsWith.ok ""
  · split
    · exact IsFairUpTo.refuse rfl
    · refine isFair_renderSource Report.segments _ ?_ ?_
      · simp [Entries.get?]
      · simp [Value.hasText_str]

theorem Trainer.isFair (hstandards : Trainer.schema.HasStandards others) :
    Trainer.plugin.IsFair others := by
  intro given inside hgiven _
  refine (isFair_refuseChild _ inside).bind fun _ _ => ?_
  refine (Schema.isFair_parseValue _ _ _).bind fun settings hsettings => ?_
  have hepochs : ((settings.get? "numEpochs").getD .null).HasText others :=
    Entries.forall_getD (P := fun v => v.HasText others)
      (Schema.hasText_of_parseValue hsettings hgiven hstandards) (.of_isShowable rfl) _
  refine isFair_renderSource Trainer.segments _ ?_ ?_
  · simp [Entries.get?]
  · simp [Value.hasText_str, hepochs]

theorem Epoch.isFair : Epoch.plugin.IsFair others := by
  intro given inside hgiven hinside
  refine (Schema.isFair_parseValue _ _ _).bind fun settings _ => ?_
  unfold Epoch.emitValid
  split
  · exact IsFairUpTo.refuse rfl
  · refine hinside.parts.isFair.bind fun parts hparts => ?_
    have hsound := hinside.each parts (Result.mapError_eq_ok.1 hparts)
    refine (FailsWith.mapM fun part hpart => (hsound part hpart).isFair_code.map _).bind ?_
    intro blocks _
    refine isFair_renderSource Epoch.segments _ ?_ ?_
    · simp [Entries.get?]
    · simp [Value.hasText_str]

/-! ### Pipelines -/

/-- The name of a class is that in the settings or the standard one, and so has a text. -/
theorem Pipeline.hasText_className {info : NodeInfo} {settings : Entries} {name : Value}
    (h : Pipeline.className? info settings = some name)
    (hstandards : info.schema.HasStandards others)
    (hsettings : ∀ entry ∈ settings, entry.2.HasText others) : name.HasText others := by
  obtain ⟨standard, hstandard, hname⟩ := Option.map_eq_some_iff.1 h
  have hstandard' := hstandards _ (Entries.mem_of_get? hstandard)
  split at hname
  · next given hgiven =>
    split at hname
    · exact hname ▸ hsettings _ (Entries.mem_of_get? hgiven)
    · exact hname ▸ hstandard'
  · exact hname ▸ hstandard'

theorem Pipeline.isFair_sectionOf (settings : Entries) {part : Part} (h : part.IsSound others) :
    IsFairUpTo others (Pipeline.sectionOf settings part) := by
  refine h.isFair_code.bind fun code _ => ?_
  dsimp only
  split
  · exact FailsWith.ok none
  · refine h.info.isFair.bind fun info hinfo => ?_
    split
    · next variableName className _ hclass =>
      refine FailsWith.map (isFair_renderSource Pipeline.segments _ ?_ ?_) some
      · simp [Entries.get?]
      · have hname := Pipeline.hasText_className hclass
          (h.standards info (Result.mapError_eq_ok.1 hinfo)) h.settings
        simp [Value.hasText_str, hname]
    · exact FailsWith.ok _

theorem Pipeline.isFair : Pipeline.plugin.IsFair others := by
  intro given inside hgiven hinside
  refine (Schema.isFair_parseValue _ _ _).bind fun settings _ => ?_
  refine hinside.parts.isFair.bind fun parts hparts => ?_
  have hsound := hinside.each parts (Result.mapError_eq_ok.1 hparts)
  refine (FailsWith.mapM fun part hpart => isFair_sectionOf settings (hsound part hpart)).bind ?_
  intro sections _
  split
  · exact hinside.metadata.isFair.bind fun metadata _ => FailsWith.ok _
  · exact FailsWith.ok _

/-! ### Modules -/

theorem Module.isFair_attributeName (index : Nat) {settings : Entries}
    (h : ∀ entry ∈ settings, entry.2.HasText others) :
    IsFairUpTo others (Module.attributeName index settings) := by
  have hwanted : (Module.wantedName index settings).HasText others := by
    unfold Module.wantedName
    split
    · next wanted hfound =>
      split
      · exact h _ (Entries.mem_of_get? hfound)
      · exact .of_isShowable rfl
    · exact .of_isShowable rfl
  simp only [Module.attributeName]
  split
  · exact FailsWith.ok _
  · exact hwanted.isWritten_quoted.isFair.bind fun _ _ => IsFairUpTo.refuse rfl

theorem Module.hasText_boundSettings (info : NodeInfo) {settings : Entries}
    (h : ∀ entry ∈ settings, entry.2.HasText others) :
    (Value.ofEntries (Module.boundSettings info settings)).HasText others := by
  have hothers : ∀ entry ∈ settings.erase "variableName", entry.2.HasText others :=
    fun entry hentry => h entry (List.mem_filter.1 hentry).1
  apply Value.HasText.ofEntries
  simp only [Module.boundSettings]
  split
  · exact Entries.forall_mem_set (P := fun v => v.HasText others) hothers (.of_isShowable rfl)
  · exact hothers

theorem Module.isFair_boundPart (index : Nat) (known : List String) {part : Part}
    (h : part.IsSound others) : IsFairUpTo others (Module.boundPart index known part) := by
  refine (isFair_attributeName index h.settings).bind fun name _ => ?_
  refine IsFairUpTo.guard rfl fun _ => ?_
  refine h.info.isFair.bind fun info _ => ?_
  refine (h.code _ (hasText_boundSettings info h.settings)).bind fun code _ => ?_
  exact IsFairUpTo.guard rfl fun _ => FailsWith.ok _

theorem Module.isFair_boundParts (index : Nat) (known : List String) {parts : List Part}
    (h : ∀ part ∈ parts, part.IsSound others) :
    IsFairUpTo others (Module.boundParts index known parts) := by
  induction parts generalizing index known with
  | nil => exact FailsWith.ok []
  | cons part rest ih =>
    obtain ⟨hpart, hrest⟩ := List.forall_mem_cons.1 h
    refine (isFair_boundPart index known hpart).bind fun first _ => ?_
    exact (ih (index + 1) (known ++ [first.1]) hrest).bind fun bound _ => FailsWith.ok _

theorem Module.isFair : Module.plugin.IsFair others := by
  intro given inside hgiven hinside
  refine (Schema.isFair_parseValue _ _ _).bind fun settings _ => ?_
  refine hinside.parts.isFair.bind fun parts hparts => ?_
  have hsound := hinside.each parts (Result.mapError_eq_ok.1 hparts)
  refine (isFair_boundParts 0 [] hsound).bind fun bound _ => ?_
  refine FailsWith.bind ?_ fun flow _ => ?_
  -- a data flow that is refused is a setting of the graph
  · simp only [Module.forward]
    split
    · exact FailsWith.mapError fun reason _ => Or.inl rfl
    · split
      · exact FailsWith.ok _
      · exact FailsWith.ok ""
  · refine isFair_renderSource Module.segments _ ?_ ?_
    · simp [Entries.get?]
    · simp [Value.hasText_str]

/-! ### All built-in types -/

/-- The standard values of all built-in types have texts. -/
theorem hasStandards_of_mem_builtins :
    ∀ plugin ∈ builtins, plugin.info.schema.HasStandards others := by
  have hall : (builtins.all fun plugin =>
      plugin.info.schema.standards.all (·.2.isShowable)) = true := by decide +kernel
  intro plugin hplugin entry hentry
  exact .of_isShowable
    (List.all_eq_true.1 (List.all_eq_true.1 hall plugin hplugin) entry hentry)

/-- Every built-in plugin is fair. -/
theorem isFair_of_mem_builtins : ∀ plugin ∈ builtins, plugin.IsFair others := by
  have hfair : ∀ plugin ∈ builtins, plugin.info.schema.HasStandards others →
      plugin.IsFair others :=
    forall_mem_builtins (fun node _ => node.isFair) (fun _ => Dataset.isFair)
      (fun _ => Module.isFair) (fun _ => Pipeline.isFair) (fun _ => Report.isFair)
      (fun _ => Epoch.isFair) Trainer.isFair
  exact fun plugin h => hfair plugin h (hasStandards_of_mem_builtins plugin h)

end Node

end LayerGraph
