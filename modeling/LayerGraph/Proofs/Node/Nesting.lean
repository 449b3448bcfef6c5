import LayerGraph.Proofs.Alike
import LayerGraph.Proofs.Node.Leaves
import LayerGraph.Proofs.Program.Preorder

/-! # Nested pipelines

    A pipeline inside another may as well be opened: if it writes no import lines of its own and
    names the same variables, the outer pipeline gives the same code, or fails in the same way, with
    the layers inside the inner one in its place (`code_of_nested`). The relation that carries this
    is between rows of sections that *read alike*; it is kept when rows are put together, and so the
    pipelines may be opened one by one, in any order and at any depth.
-/

namespace LayerGraph.Node.Pipeline

/-! ### Sections -/

section sections
variable (resolve : Resolver)

/-- The sections of layers in a pipeline with these settings. -/
def sectionsOf (settings : Entries) (layers : List Layer) : Except Failure (List String) :=
  (·.filterMap id) <$> (layers.map (·.part resolve)).mapM (sectionOf settings)

/-- The import lines that the code of layers needs. -/
def importsOf (layers : List Layer) : Except GraphError (List String) :=
  (·.imports) <$> collectMetadata resolve layers

variable {resolve}

@[simp] theorem sectionsOf_nil (settings : Entries) : sectionsOf resolve settings [] = .ok [] := rfl

theorem sectionsOf_append (settings : Entries) (xs ys : List Layer) :
    sectionsOf resolve settings (xs ++ ys) = (do
      let front ← sectionsOf resolve settings xs
      let back ← sectionsOf resolve settings ys
      return front ++ back) := by
  unfold sectionsOf
  rw [List.map_append, List.mapM_append]
  cases (xs.map (·.part resolve)).mapM (sectionOf settings) with
  | error failure => rfl
  | ok front =>
    cases (ys.map (·.part resolve)).mapM (sectionOf settings) with
    | error failure => rfl
    | ok back => exact congrArg Except.ok (List.filterMap_append ..)

/-- The section of one layer, as a row. -/
theorem sectionsOf_singleton (settings : Entries) (layer : Layer) :
    sectionsOf resolve settings [layer] =
      Option.toList <$> sectionOf settings (layer.part resolve) := by
  unfold sectionsOf
  rw [List.map_singleton, List.mapM_cons, List.mapM_nil]
  cases sectionOf settings (layer.part resolve) with
  | error failure => rfl
  | ok text? => cases text? <;> rfl

/-- The code of a pipeline is made of its sections and of the import lines that its layers need. -/
theorem emit_eq {given : Value} {settings : Entries}
    (h : schema.parseValue typeKey given = .ok settings) (child : Child) :
    emit given (child.inside resolve) = (do
      let sections ← sectionsOf resolve settings child.layers
      if settings.flag "includeImports" then do
        let imports ← (importsOf resolve child.layers).mapError .graph
        return Fragment.withImports ("\n\n".intercalate sections) imports
      else return "\n\n".intercalate sections) := by
  unfold emit sectionsOf importsOf
  rw [h, Child.inside_parts, Child.inside_metadata]
  show ((child.layers.map (·.part resolve)).mapM (sectionOf settings) >>= _) = _
  cases (child.layers.map (·.part resolve)).mapM (sectionOf settings) with
  | error failure => rfl
  | ok sections =>
    cases hflag : settings.flag "includeImports" with
    | false => rfl
    | true => cases collectMetadata resolve child.layers <;> rfl

end sections

/-! ### The ends of sections -/

/-- A text that holds more than blanks and has no line break at its ends. -/
structure IsSection (cs : List Char) : Prop where
  solid : Text.isBlankText cs = false
  first : cs.head? ≠ some '\n'
  last : cs.getLast? ≠ some '\n'

namespace IsSection
variable {xs ys : List Char}

theorem ne_nil (h : IsSection xs) : xs ≠ [] := by
  rintro rfl
  exact absurd h.solid (by decide)

theorem append (h : IsSection xs) (hlast : ys.getLast? ≠ some '\n') : IsSection (xs ++ ys) where
  solid := by rw [Text.isBlankText_append, h.solid, Bool.false_and]
  first := by
    obtain ⟨c, rest, rfl⟩ := List.exists_cons_of_ne_nil h.ne_nil
    exact h.first
  last := by
    rw [List.getLast?_append]
    cases hys : ys.getLast? with
    | none => exact h.last
    | some c =>
      rw [hys] at hlast
      exact hlast

/-- Texts with gaps between them. -/
theorem spaced {texts : List String} (h : ∀ text ∈ texts, IsSection text.toList)
    (hne : texts ≠ []) : IsSection ("\n\n".intercalate texts).toList := by
  induction texts with
  | nil => exact absurd rfl hne
  | cons text rest ih =>
    obtain ⟨htext, hrest⟩ := List.forall_mem_cons.1 h
    by_cases hnil : rest = []
    · subst hnil
      rwa [String.intercalate_singleton]
    · have hothers := ih hrest hnil
      rw [String.intercalate_cons_of_ne_nil hnil, String.toList_append, String.toList_append,
        List.append_assoc]
      refine htext.append ?_
      rw [List.getLast?_append_of_ne_nil _ hothers.ne_nil]
      exact hothers.last

/-- There are no line breaks to be cut off. -/
theorem trimBreaks_eq (h : IsSection xs) : Text.trimBreaks xs = xs := by
  have hbreak : ∀ {end? : Option Char}, end? ≠ some '\n' → ∀ c, end? = some c →
      (c == '\n') = false := by
    rintro _ hne c rfl
    exact beq_false_of_ne fun hc => hne (congrArg some hc)
  exact Text.trimWhile_of_ends (hbreak h.first) (hbreak h.last)

theorem of_trimBreaks {cs : List Char} (h : Text.isBlankText (Text.trimBreaks cs) = false) :
    IsSection (Text.trimBreaks cs) where
  solid := h
  first hfirst := by
    have hkept := List.head?_dropWhile_not (· == '\n') (Text.trimBreaks cs)
    unfold Text.trimBreaks at hkept hfirst
    rw [Text.dropWhile_trimWhile, hfirst] at hkept
    exact absurd hkept (by decide)
  last hlast := absurd (Text.getLast?_dropEndWhile _ _ _ hlast) (by decide)

end IsSection

/-- What is found as a section is one. -/
theorem isSection_of_sectionOf {settings : Entries} {part : Part} {text : String}
    (h : sectionOf settings part = .ok (some text)) : IsSection text.toList := by
  obtain ⟨code, -, ⟨-, hnone⟩ | ⟨hsolid, _, -, hcases⟩⟩ := sectionOf_eq_ok h
  · exact absurd hnone nofun
  · have hown : IsSection (Fragment.trimBreaks code).toList := by
      unfold Fragment.trimBreaks
      rw [String.toList_ofList]
      exact .of_trimBreaks ((Text.isBlankText_trimBreaks _).trans hsolid)
    rcases hcases with hsame | ⟨_, _, shown, -, -, -, hsame⟩
    · obtain rfl := Option.some.inj hsame
      exact hown
    · obtain rfl := Option.some.inj hsame
      rw [String.toList_append, String.toList_append, List.append_assoc]
      refine hown.append ?_
      rw [String.toList_append (t := "()"), ← List.append_assoc,
        List.getLast?_append_of_ne_nil _ (by decide)]
      decide

theorem isSection_of_mem_sectionsOf {resolve : Resolver} {settings : Entries}
    {layers : List Layer} {sections : List String}
    (h : sectionsOf resolve settings layers = .ok sections) :
    ∀ text ∈ sections, IsSection text.toList := by
  obtain ⟨found, hfound, rfl⟩ := Result.map_eq_ok.1 h
  intro text htext
  obtain ⟨text?, hmem, hsome⟩ := List.mem_filterMap.1 htext
  obtain rfl : text? = some text := hsome
  exact Result.forall_mem_of_mapM hfound (P := fun text? => ∀ text, text? = some text →
    IsSection text.toList) (fun part _ text? hpart text htext =>
      isSection_of_sectionOf (htext ▸ hpart)) _ hmem text rfl

/-! ### Rows that read alike -/

/-- Rows of sections that make the same text, and of which both are empty or none is. -/
structure SameText (xs ys : List String) : Prop where
  empty : xs = [] ↔ ys = []
  text : "\n\n".intercalate xs = "\n\n".intercalate ys

namespace SameText

theorem refl (xs : List String) : SameText xs xs := ⟨Iff.rfl, rfl⟩

theorem trans {xs ys zs : List String} (h : SameText xs ys) (h' : SameText ys zs) :
    SameText xs zs := ⟨h.empty.trans h'.empty, h.text.trans h'.text⟩

theorem append {xs ys xs' ys' : List String} (h : SameText xs ys) (h' : SameText xs' ys') :
    SameText (xs ++ xs') (ys ++ ys') where
  empty := by rw [List.append_eq_nil_iff, List.append_eq_nil_iff, h.empty, h'.empty]
  text := by
    by_cases hnil : xs = []
    · rw [hnil, h.empty.1 hnil]
      exact h'.text
    · have hother := mt h.empty.2 hnil
      by_cases hnil' : xs' = []
      · rw [hnil', h'.empty.1 hnil', List.append_nil, List.append_nil, h.text]
      · rw [String.intercalate_append_of_ne_nil hnil hnil',
          String.intercalate_append_of_ne_nil hother (mt h'.empty.2 hnil'), h.text, h'.text]

end SameText

/-- A row put together, as a row again. -/
def together (texts : List String) : List String :=
  if texts = [] then [] else ["\n\n".intercalate texts]

/-- A row may be put together before it is put among others. -/
theorem sameText_together (texts : List String) : SameText (together texts) texts := by
  unfold together
  by_cases hnil : texts = []
  · rw [if_pos hnil, hnil]
    exact .refl []
  · rw [if_neg hnil]
    exact ⟨iff_of_false (List.cons_ne_nil _ _) hnil, String.intercalate_singleton⟩

/-- Types that need the same import lines, in the same order. -/
def SameImports (infos others : List NodeInfo) : Prop :=
  infos.flatMap (·.imports) = others.flatMap (·.imports)

theorem SameImports.refl (infos : List NodeInfo) : SameImports infos infos := Eq.refl _

theorem SameImports.trans {infos others rest : List NodeInfo} (h : SameImports infos others)
    (h' : SameImports others rest) : SameImports infos rest := Eq.trans h h'

/-! ### Layers that make the same pipeline -/

section interchangeable
variable (resolve : Resolver)

/-- Layers that may stand in a pipeline with these settings in place of others: their sections read
    alike, their types need the same import lines, and they fail in the same way. -/
structure Interchangeable (settings : Entries) (xs ys : List Layer) : Prop where
  sections : Agree (· = ·) SameText (sectionsOf resolve settings xs)
    (sectionsOf resolve settings ys)
  visits : Agree (· = ·) SameImports (visit resolve xs) (visit resolve ys)

variable {resolve} {settings : Entries}

theorem visit_append (xs ys : List Layer) :
    visit resolve (xs ++ ys) = (do
      let front ← visit resolve xs
      let back ← visit resolve ys
      return front ++ back) := by
  rw [visit_eq_mapM, visit_eq_mapM, visit_eq_mapM, Layer.preorders_append, List.mapM_append]

namespace Interchangeable

theorem refl (xs : List Layer) : Interchangeable resolve settings xs xs where
  sections := .refl (fun _ => rfl) SameText.refl _
  visits := .refl (fun _ => rfl) SameImports.refl _

theorem trans {xs ys zs : List Layer} (h : Interchangeable resolve settings xs ys)
    (h' : Interchangeable resolve settings ys zs) : Interchangeable resolve settings xs zs where
  sections := h.sections.trans (fun he he' => he.trans he') (fun hr hr' => hr.trans hr') h'.sections
  visits := h.visits.trans (fun he he' => he.trans he') (fun hr hr' => hr.trans hr') h'.visits

theorem append {xs ys xs' ys' : List Layer} (h : Interchangeable resolve settings xs ys)
    (h' : Interchangeable resolve settings xs' ys') :
    Interchangeable resolve settings (xs ++ xs') (ys ++ ys') where
  sections := by
    rw [sectionsOf_append, sectionsOf_append]
    apply h.sections.bind
    intro front front' _ hfront
    apply h'.sections.bind
    intro back back' _ hback
    exact .ok (hfront.append hback)
  visits := by
    rw [visit_append, visit_append]
    apply h.visits.bind
    intro front front' _ hfront
    apply h'.visits.bind
    intro back back' _ hback
    refine .ok ?_
    unfold SameImports at *
    rw [List.flatMap_append, List.flatMap_append, hfront, hback]

/-- Pipelines over such layers give the same code, or fail in the same way. -/
theorem emit_eq {given : Value} (hsettings : schema.parseValue typeKey given = .ok settings)
    {child other : Child} (h : Interchangeable resolve settings child.layers other.layers) :
    emit given (child.inside resolve) = emit given (other.inside resolve) := by
  have himports : importsOf resolve child.layers = importsOf resolve other.layers := by
    have hvisits := h.visits
    unfold importsOf collectMetadata Metadata.ofInfos
    generalize visit resolve child.layers = infos at hvisits ⊢
    generalize visit resolve other.layers = others at hvisits ⊢
    cases hvisits with
    | ok hsame => exact congrArg Except.ok (congrArg Text.distinct hsame)
    | error hsame => exact congrArg Except.error hsame
  have hsections := h.sections
  rw [Pipeline.emit_eq hsettings, Pipeline.emit_eq hsettings, himports]
  generalize sectionsOf resolve settings child.layers = sections at hsections ⊢
  generalize sectionsOf resolve settings other.layers = others at hsections ⊢
  cases hsections with
  | ok hsame =>
    show (if _ then _ else _) = (if _ then _ else _)
    rw [hsame.text]
  | error hsame => rw [hsame]

end Interchangeable

end interchangeable

/-! ### Opening pipelines -/

/-- Whether a layer is a pipeline that writes no import lines of its own and names the same
    variables as these settings. -/
def isNested (settings : Entries) (layer : Layer) : Bool :=
  isPipeline layer.type &&
    match schema.parseValue typeKey (settingsValue layer.settings) with
    | .ok own =>
      !own.flag "includeImports" &&
        own.text? "datasetVariable" == settings.text? "datasetVariable" &&
          own.text? "modelVariable" == settings.text? "modelVariable"
    | .error _ => false

mutual

/-- What is left of a layer when such pipelines are opened, at every depth. -/
def opened (settings : Entries) : Layer → List Layer
  | .mk type own child =>
    if isNested settings (.mk type own child) then openedInside settings child
    else [.mk type own child]

/-- What is left of the layers in what a layer holds. -/
def openedInside (settings : Entries) : Child → List Layer
  | .none => []
  | .one layer => opened settings layer
  | .many layers => openedAll settings layers

/-- What is left of layers, in order. -/
def openedAll (settings : Entries) : List Layer → List Layer
  | [] => []
  | layer :: rest => opened settings layer ++ openedAll settings rest

end

section opening
variable {settings : Entries}

theorem openedInside_eq (child : Child) :
    openedInside settings child = openedAll settings child.layers := by
  cases child with
  | none => rfl
  | one layer => exact (List.append_nil _).symm
  | many layers => rfl

theorem opened_of_isNested {layer : Layer} (h : isNested settings layer = true) :
    opened settings layer = openedAll settings layer.child.layers := by
  obtain ⟨type, own, child⟩ := layer
  unfold opened
  exact (if_pos h).trans (openedInside_eq child)

theorem opened_of_not_isNested {layer : Layer} (h : isNested settings layer = false) :
    opened settings layer = [layer] := by
  obtain ⟨type, own, child⟩ := layer
  unfold opened
  exact if_neg (Bool.eq_false_iff.1 h)

theorem exists_of_isNested {layer : Layer} (h : isNested settings layer = true) :
    registry.resolve layer.type = .ok plugin ∧
      ∃ own, schema.parseValue typeKey (settingsValue layer.settings) = .ok own ∧
        own.flag "includeImports" = false ∧
          own.text? "datasetVariable" = settings.text? "datasetVariable" ∧
            own.text? "modelVariable" = settings.text? "modelVariable" := by
  unfold isNested at h
  obtain ⟨htype, h⟩ := Bool.and_eq_true_iff.1 h
  refine ⟨isPipeline_iff.1 htype, ?_⟩
  split at h
  · next own hown =>
    simp only [Bool.and_eq_true, Bool.not_eq_true', beq_iff_eq] at h
    exact ⟨own, hown, h.1.1, h.1.2, h.2⟩
  · exact absurd h nofun

/-- With the same variables a part has the same section. -/
theorem sectionOf_congr {own : Entries}
    (hdataset : own.text? "datasetVariable" = settings.text? "datasetVariable")
    (hmodel : own.text? "modelVariable" = settings.text? "modelVariable") :
    sectionOf own = sectionOf settings := by
  have hvariable : instanceVariable own = instanceVariable settings := by
    funext category
    unfold instanceVariable
    rw [hdataset, hmodel]
  funext part
  unfold sectionOf
  rw [hvariable]

/-- The section of such a pipeline is made of the sections of its layers. -/
theorem sectionsOf_of_isNested {layer : Layer} (h : isNested settings layer = true) :
    sectionsOf registry.resolve settings [layer] =
      together <$> sectionsOf registry.resolve settings layer.child.layers := by
  obtain ⟨hfound, own, hown, hheadless, hdataset, hmodel⟩ := exists_of_isNested h
  have hinside : sectionsOf registry.resolve own layer.child.layers =
      sectionsOf registry.resolve settings layer.child.layers := by
    unfold sectionsOf
    rw [sectionOf_congr hdataset hmodel]
  have hcode : (layer.part registry.resolve).code =
      "\n\n".intercalate <$> sectionsOf registry.resolve settings layer.child.layers := by
    unfold Part.code
    rw [Layer.part_codeUnder, hfound, Layer.part_layer]
    show emit _ _ = _
    rw [emit_eq hown, hheadless, hinside]
    cases sectionsOf registry.resolve settings layer.child.layers <;> rfl
  have hinfo : (layer.part registry.resolve).info = .ok info := by
    rw [Layer.part_info, hfound]
    rfl
  -- The code of the pipeline is made of these sections; trimming leaves it as it is, since no
  -- section begins or ends with a break.
  rw [sectionsOf_singleton]
  cases hsections : sectionsOf registry.resolve settings layer.child.layers with
  | error failure =>
    rw [hsections] at hcode
    unfold sectionOf
    rw [hcode]
    rfl
  | ok texts =>
    rw [hsections] at hcode
    by_cases hnil : texts = []
    · subst hnil
      unfold sectionOf
      rw [hcode]
      rfl
    · have hspaced := IsSection.spaced (isSection_of_mem_sectionsOf hsections) hnil
      have htrimmed : Fragment.trimBreaks ("\n\n".intercalate texts) =
          "\n\n".intercalate texts := by
        unfold Fragment.trimBreaks
        rw [hspaced.trimBreaks_eq, String.ofList_toList]
      rw [sectionOf_of_code hcode hinfo rfl hspaced.solid htrimmed]
      show _ = Except.ok (together texts)
      rw [together, if_neg hnil]
      rfl

/-- The layers inside such a pipeline may stand in its place. -/
theorem interchangeable_of_isNested {layer : Layer} (h : isNested settings layer = true) :
    Interchangeable registry.resolve settings [layer] layer.child.layers where
  sections := by
    rw [sectionsOf_of_isNested h]
    cases sectionsOf registry.resolve settings layer.child.layers with
    | error failure => exact .error rfl
    | ok texts => exact .ok (sameText_together texts)
  visits := by
    rw [visit, (exists_of_isNested h).1, List.append_nil]
    cases visit registry.resolve layer.child.layers with
    | error error => exact .error rfl
    | ok infos => exact .ok rfl

/-- So may what is left when all such pipelines are opened. -/
theorem interchangeable_opened (layer : Layer) :
    Interchangeable registry.resolve settings [layer] (opened settings layer) := by
  induction layer using Layer.induct with
  | inherits layer ih =>
    have hrow : ∀ layers : List Layer, (∀ inner ∈ layers,
        Interchangeable registry.resolve settings [inner] (opened settings inner)) →
          Interchangeable registry.resolve settings layers (openedAll settings layers) := by
      intro layers h
      induction layers with
      | nil => exact .refl []
      | cons inner rest ihrest =>
        obtain ⟨hinner, hrest⟩ := List.forall_mem_cons.1 h
        exact hinner.append (ihrest hrest)
    cases hnested : isNested settings layer with
    | false =>
      rw [opened_of_not_isNested hnested]
      exact .refl [layer]
    | true =>
      rw [opened_of_isNested hnested]
      exact (interchangeable_of_isNested hnested).trans (hrow _ ih)

mutual

/-- Nothing that is left can be opened further. -/
theorem not_isNested_of_mem_opened : ∀ (layer : Layer), ∀ leaf ∈ opened settings layer,
    isNested settings leaf = false
  | .mk type own child => by
    intro leaf hleaf
    unfold opened at hleaf
    split at hleaf
    · exact not_isNested_of_mem_openedInside child leaf hleaf
    · next hother =>
      obtain rfl := List.mem_singleton.1 hleaf
      exact Bool.eq_false_iff.2 hother

theorem not_isNested_of_mem_openedInside : ∀ (child : Child),
    ∀ leaf ∈ openedInside settings child, isNested settings leaf = false
  | .none => nofun
  | .one layer => not_isNested_of_mem_opened layer
  | .many layers => not_isNested_of_mem_openedAll layers

theorem not_isNested_of_mem_openedAll : ∀ (layers : List Layer),
    ∀ leaf ∈ openedAll settings layers, isNested settings leaf = false
  | [] => nofun
  | layer :: rest => by
    intro leaf hleaf
    exact (List.mem_append.1 hleaf).elim (not_isNested_of_mem_opened layer leaf)
      (not_isNested_of_mem_openedAll rest leaf)

end

theorem interchangeable_openedAll (layers : List Layer) :
    Interchangeable registry.resolve settings layers (openedAll settings layers) := by
  induction layers with
  | nil => exact .refl []
  | cons layer rest ih => exact (interchangeable_opened layer).append ih

end opening

/-- The code of a pipeline depends on what it holds only up to layers that may stand in place of
    each other. -/
theorem code_eq_of_interchangeable {type : String} (hpipeline : isPipeline type = true)
    {own : Option Entries} {settings : Entries}
    (hsettings : schema.parseValue typeKey (settingsValue own) = .ok settings) {child other : Child}
    (h : Interchangeable registry.resolve settings child.layers other.layers) :
    ((Layer.mk type own child).part registry.resolve).code =
      ((Layer.mk type own other).part registry.resolve).code := by
  unfold Part.code
  rw [Layer.part_codeUnder, Layer.part_codeUnder]
  show (registry.resolve type).mapError Failure.graph >>= _ =
    (registry.resolve type).mapError Failure.graph >>= _
  rw [isPipeline_iff.1 hpipeline]
  exact h.emit_eq hsettings

/-- Nesting makes no difference. A pipeline inside another that writes no import lines of its own
    and names the same variables can be replaced by the layers it holds: the outer pipeline gives
    the same code, import lines included, or fails in the same way. So a tree of such pipelines is
    the flat pipeline of what is left when all of them are opened. -/
theorem code_of_nested {type : String} (hpipeline : isPipeline type = true) {own : Option Entries}
    {settings : Entries}
    (hsettings : schema.parseValue typeKey (settingsValue own) = .ok settings) :
    (∀ before inner after, isNested settings inner = true → ∀ nested flat : Child,
      nested.layers = before ++ inner :: after →
      flat.layers = before ++ inner.child.layers ++ after →
      ((Layer.mk type own nested).part registry.resolve).code =
        ((Layer.mk type own flat).part registry.resolve).code) ∧
    ∀ child : Child,
      ((Layer.mk type own child).part registry.resolve).code =
        ((Layer.mk type own (.many (openedAll settings child.layers))).part registry.resolve).code ∧
      ∀ leaf ∈ openedAll settings child.layers, isNested settings leaf = false := by
  refine ⟨?_, fun child => ⟨?_, not_isNested_of_mem_openedAll _⟩⟩
  · intro before inner after hinner nested flat hnested hflat
    apply code_eq_of_interchangeable hpipeline hsettings
    rw [hnested, hflat, List.append_assoc, List.append_cons, List.append_assoc]
    exact .append (.refl before) (.append (interchangeable_of_isNested hinner) (.refl after))
  · exact code_eq_of_interchangeable hpipeline hsettings (interchangeable_openedAll _)

/-- A pipeline without import lines of its own. -/
def headless (type : String) (child : Child) : Layer :=
  .mk type (some [("includeImports", .bool false)]) child

/-- A pipeline over a pipeline, in which there are a layer and one more pipeline. -/
theorem code_of_nested_twice :
    let relu : Layer := .mk "ReLU" none .none
    let flatten : Layer := .mk "Flatten" none .none
    let inner := headless "PIPELINE" (.one relu)
    let outer := headless "Pipeline" (.many [flatten, inner])
    isNested schema.standards outer = true ∧ isNested schema.standards inner = true ∧
      ((Layer.mk "pipeline" none (.one outer)).part registry.resolve).code =
        ((Layer.mk "pipeline" none (.many [flatten, inner])).part registry.resolve).code ∧
      ((Layer.mk "pipeline" none (.one outer)).part registry.resolve).code =
        ((Layer.mk "pipeline" none (.many [flatten, relu])).part registry.resolve).code ∧
      ((Layer.mk "pipeline" none (.many [flatten, relu])).part
        registry.resolve).code.toOption.isSome = true := by
  intro relu flatten inner outer
  have hpipeline : isPipeline "pipeline" = true := by decide
  have hsettings : schema.parseValue typeKey (settingsValue none) = .ok schema.standards := rfl
  have hinner : isNested schema.standards inner = true := by decide
  have houter : isNested schema.standards outer = true := by decide
  have hrelu : isNested schema.standards relu = false := by decide
  have hflatten : isNested schema.standards flatten = false := by decide
  have hopened : openedAll schema.standards [outer] = [flatten, relu] := by
    rw [openedAll, opened_of_isNested houter]
    show openedAll _ [flatten, inner] ++ [] = _
    rw [openedAll, openedAll, opened_of_not_isNested hflatten, opened_of_isNested hinner]
    show [flatten] ++ (openedAll _ [relu] ++ []) ++ [] = _
    rw [openedAll, opened_of_not_isNested hrelu]
    rfl
  obtain ⟨hsplice, hopen⟩ := code_of_nested hpipeline hsettings
  refine ⟨houter, hinner, hsplice [] outer [] houter (.one outer) _ rfl rfl, ?_, by decide +kernel⟩
  rw [(hopen (.one outer)).1]
  show (Layer.part registry.resolve (.mk _ _ (.many (openedAll _ [outer])))).code = _
  rw [hopened]

end LayerGraph.Node.Pipeline
