import LayerGraph.Proofs.Node.Expressions
import LayerGraph.Value.Lemmas

/-! # Submodules

    What becomes of the layers inside a module: each of them is one attribute of the class, in
    order, under the name that it asks for or its standard name, and is bound to its own code,
    written under its settings without a variable (`IsSubmodule`). No two of them share a name, so
    none is lost and none is overwritten (`emits_submodules`). Without a data flow, a single
    parameter is passed through all of them, in the same order.
-/

namespace LayerGraph.Node.Module

open Fragment (blockBelow? stack)
open Text (lines)

/-! ### Names and settings -/

/-- Whether a layer asks for a name: a value that counts as false asks for none. -/
def AsksFor (own : Entries) (name : String) : Prop :=
  ∃ wanted, own.get? "variableName" = some wanted ∧ wanted.truthy = true ∧
    wanted.text? = some name

/-- Whether a layer asks for no name. -/
def AsksForNone (own : Entries) : Prop :=
  ∀ wanted, own.get? "variableName" = some wanted → wanted.truthy = false

/-- Settings without a variable: those of a layer, but that the variable is null for a node type
    that has one, and not there for any other. -/
structure IsUnassigned (info : NodeInfo) (own fed : Entries) : Prop where
  null : info.schema.standards.any (·.1 == "variableName") = true →
    fed.get? "variableName" = some .null
  absent : info.schema.standards.any (·.1 == "variableName") = false →
    fed.get? "variableName" = none
  others : ∀ key, key ≠ "variableName" → fed.get? key = own.get? key

theorem isUnassigned_boundSettings (info : NodeInfo) (own : Entries) :
    IsUnassigned info own (boundSettings info own) := by
  refine ⟨fun hvariable => ?_, fun hnone => ?_, fun key hkey => ?_⟩
  · unfold boundSettings
    rw [if_pos hvariable]
    exact Entries.get?_set_self _ _ _
  · unfold boundSettings
    rw [if_neg (Bool.eq_false_iff.1 hnone)]
    exact Entries.get?_erase_self own _
  · unfold boundSettings
    split
    · exact (Entries.get?_set_of_ne hkey _ _).trans (Entries.get?_erase_of_ne hkey own)
    · exact Entries.get?_erase_of_ne hkey own

/-- A layer has the name that it asks for, or its standard name. -/
theorem name_of_attributeName {index : Nat} {own : Entries} {name : String}
    (h : attributeName index own = .ok name) :
    AsksFor own name ∨ AsksForNone own ∧ name = standardName index := by
  unfold attributeName at h
  dsimp only at h
  split at h
  · next hwanted =>
    obtain rfl := Except.ok.inj h
    obtain ⟨htext, -⟩ := Option.filter_eq_some_iff.1 hwanted
    unfold wantedName at htext
    cases hown : own.get? "variableName" with
    | none =>
      rw [hown] at htext
      refine .inr ⟨fun wanted hwanted => ?_, (Option.some.inj htext).symm⟩
      rw [hown] at hwanted
      exact absurd hwanted nofun
    | some wanted =>
      rw [hown] at htext
      dsimp only at htext
      split at htext
      · next htruthy => exact .inl ⟨wanted, hown, htruthy, htext⟩
      · next hfalse =>
        refine .inr ⟨fun other hother => ?_, (Option.some.inj htext).symm⟩
        obtain rfl := Option.some.inj (hown.symm.trans hother)
        exact Bool.eq_false_iff.2 hfalse
  · obtain ⟨shown, -, h⟩ := Result.bind_eq_ok.1 h
    exact absurd h nofun

/-! ### Attributes -/

/-- What the attribute for the layer at an index is: its name, and the code that the layer's plugin
    writes under the settings of the layer without a variable. -/
structure IsSubmodule (resolve : Resolver) (layer : Layer) (index : Nat)
    (bound : String × String) : Prop where
  name : AsksFor (layer.settings.getD []) bound.1 ∨
    AsksForNone (layer.settings.getD []) ∧ bound.1 = standardName index
  code : ∃ plugin code, resolve layer.type = .ok plugin ∧
    IsUnassigned plugin.info (layer.settings.getD [])
      (boundSettings plugin.info (layer.settings.getD [])) ∧
    plugin.emit (.ofEntries (boundSettings plugin.info (layer.settings.getD [])))
      (layer.child.inside resolve) = .ok code ∧
    bound.2 = trimmed code ∧ '\n' ∉ bound.2.toList

theorem isSubmodule_of_boundPart {resolve : Resolver} {layer : Layer} {index : Nat}
    {known : List String} {bound : String × String}
    (h : boundPart index known (layer.part resolve) = .ok bound) :
    IsSubmodule resolve layer index bound := by
  obtain ⟨hname, -, info, code, hinfo, hcode, hline, hbound⟩ := boundPart_eq_ok.1 h
  rw [Layer.part_layer] at hname hcode
  rw [Layer.part_codeUnder] at hcode
  obtain ⟨plugin, hplugin, hemit⟩ := Result.bind_eq_ok.1 hcode
  have hfound := Result.mapError_eq_ok.1 hplugin
  rw [Layer.part_info, hfound] at hinfo
  obtain rfl : plugin.info = info := Except.ok.inj hinfo
  rw [← hbound, String.contains_char_eq] at hline
  exact ⟨name_of_attributeName hname, plugin, code, hfound,
    isUnassigned_boundSettings plugin.info _, hemit, hbound, of_decide_eq_false hline⟩

/-- The attributes of a module are its layers, one by one. -/
theorem isSubmodule_of_boundParts {resolve : Resolver} {layers : List Layer} {index : Nat}
    {known : List String} {bound : List (String × String)}
    (h : boundParts index known (layers.map (·.part resolve)) = .ok bound) :
    List.Forall₂ (fun (p : Layer × Nat) b => IsSubmodule resolve p.1 p.2 b)
      (layers.zipIdx index) bound := by
  induction layers generalizing index known bound with
  | nil =>
    obtain rfl := Except.ok.inj h
    exact .nil
  | cons layer rest ih =>
    obtain ⟨first, others, hfirst, hothers, rfl⟩ := boundParts_cons_eq_ok.1 h
    exact .cons (isSubmodule_of_boundPart hfirst) (ih hothers)

/-! ### The chain -/

/-- The lines of `forward` that pass a value through layers. -/
theorem lines_body_chain {settings : Entries} {x : String} {names : List String}
    (hx : settings.texts "forwardParams" = [x]) (hparam : Text.isName x = true)
    (hnames : ∀ name ∈ names, Text.isName name = true) :
    lines (Fragment.body (chain settings names) 2).toList =
      names.map (fun name =>
        ("        " ++ x ++ " = self." ++ name ++ "(" ++ x ++ ")").toList) ++
        [("        return " ++ x).toList] := by
  have hchain : chain settings names = stack (names.map (chainLink x) ++ ["return " ++ x]) := by
    unfold chain
    rw [hx]
  have hbreak : ∀ {name : String}, Text.isName name = true → '\n' ∉ name.toList := fun hname =>
    Text.not_mem_of_isName hname (by decide)
  have hsolid : ∀ text ∈ names.map (chainLink x) ++ ["return " ++ x],
      '\n' ∉ text.toList ∧ Text.isBlankText text.toList = false := by
    refine List.forall_mem_append.2 ⟨List.forall_mem_map.2 fun name hname => ?_,
      List.forall_mem_singleton.2 ?_⟩
    · simp only [chainLink, String.toList_append, List.mem_append, not_or,
        Text.isBlankText_append]
      refine ⟨⟨⟨⟨⟨⟨hbreak hparam, by decide⟩, hbreak (hnames name hname)⟩, by decide⟩,
        hbreak hparam⟩, by decide⟩, ?_⟩
      have hparenthesis : Text.isBlankText ")".toList = false := rfl
      rw [hparenthesis, Bool.and_false]
    · rw [String.toList_append, List.mem_append, not_or, Text.isBlankText_append]
      exact ⟨⟨by decide, hbreak hparam⟩, rfl⟩
  rw [hchain]
  refine (Fragment.lines_body_stack (by simp) hsolid 2).trans ?_
  rw [List.map_append, List.map_map]
  refine congrArg₂ (· ++ ·) (List.map_congr_left fun name _ => ?_) ?_
  · simp [chainLink, Fragment.indentWidth]
  · simp [Fragment.indentWidth]

/-! ### The class -/

/-- The layers inside a module are its attributes.

    The constructor of the class calls that of the superclass, and then has one line for each layer,
    in order, and an empty line ends it. The attributes have different names, and all of them can be
    attributes. Each layer has the name that it asks for, or else its standard name, and is bound to
    its own code without a variable. If there is no data flow and a single parameter, `forward`
    passes it through each of the attributes once, in the same order. -/
theorem emits_submodules {resolve : Resolver} {given : Value} {inside : Inside}
    {layers : List Layer} {code : String}
    (hinside : inside.parts = .ok (layers.map (·.part resolve)))
    (h : emit given inside = .ok code) :
    ∃ settings bound, schema.parseValue typeKey given = .ok settings ∧
      blockBelow? (methodHeader "__init__" (params settings "constructorParams")).toList
          (lines code.toList) =
        some ("        super().__init__()".toList ::
          bound.map (fun b : String × String => ("        self." ++ b.1 ++ " = " ++ b.2).toList) ++
            [[]]) ∧
      (bound.map (·.1)).Nodup ∧
      (∀ name ∈ bound.map (·.1), Text.isName name = true ∧ name ≠ "self") ∧
      List.Forall₂ (fun (p : Layer × Nat) b => IsSubmodule resolve p.1 p.2 b)
        layers.zipIdx bound ∧
      (Fragment.isBlank (settings.text "dataFlow") = true →
        ∀ x, settings.texts "forwardParams" = [x] →
          blockBelow? (methodHeader "forward" (params settings "forwardParams")).toList
              (lines code.toList) =
            some (bound.map (fun b : String × String =>
                ("        " ++ x ++ " = self." ++ b.1 ++ "(" ++ x ++ ")").toList) ++
              [("        return " ++ x).toList])) := by
  obtain ⟨settings, hsettings, -⟩ := Result.bind_eq_ok.1 h
  obtain ⟨parts, bound, flow, hparts, hbound, hflow, rfl⟩ := exists_of_emit hsettings h
  obtain rfl := Except.ok.inj (hinside.symm.trans hparts)
  have hnames : ∀ name ∈ bound.map (·.1), Text.isName name = true ∧ name ≠ "self" := by
    intro name hname
    have hattribute := Bool.and_eq_true_iff.1 (isAttribute_of_boundParts hbound name hname)
    exact ⟨hattribute.1, bne_iff_ne.1 hattribute.2⟩
  refine ⟨settings, bound, hsettings, ?_, nodup_of_boundParts hbound List.nodup_nil, hnames,
    isSubmodule_of_boundParts hbound, fun hblank x hx => ?_⟩
  · exact blockBelow?_init hsettings flow (not_mem_binding hbound)
  · -- without a data flow the second block is the chain of the attributes
    have hparam := isName_of_forwardParams hsettings x (hx ▸ List.mem_cons_self)
    rw [forward_eq, if_pos hblank] at hflow
    obtain rfl := Except.ok.inj hflow
    have hblock := blockBelow?_of_mem hsettings bound (chain settings (bound.map (·.1)))
      (List.mem_cons_of_mem _ List.mem_cons_self)
    refine hblock.trans (congrArg some ?_)
    rw [List.append_nil]
    refine (lines_body_chain hx hparam fun name hname => (hnames name hname).1).trans ?_
    rw [List.map_map]
    rfl

/-- A pipeline, which has no variable, and a layer that asks for a name. -/
def mixedLayers : List Layer :=
  [assigningLayer, .mk "Flatten" (some [("variableName", .str "flat")]) .none]

theorem boundParts_mixedLayers :
    boundParts 0 [] (mixedLayers.map (·.part registry.resolve)) =
      .ok [("layer_0", trimmed "act = torch.nn.ReLU()"),
        ("flat", trimmed "torch.nn.Flatten()")] := by
  have hfound : registry.resolve "Flatten" = .ok flatten.plugin :=
    @resolve_of_mem_builtins flatten.plugin (by simp [builtins])
  have hname : attributeName 1 [("variableName", .str "flat")] = .ok "flat" := by cbv
  have hcode : ∀ inside : Inside, inside.given = false →
      flatten.emit (.ofEntries [("variableName", .null)]) inside = .ok "torch.nn.Flatten()" := by
    rintro ⟨given, parts, metadata⟩ rfl
    cbv
  have hline : (trimmed "torch.nn.Flatten()").contains '\n' = false := by cbv
  have hflat := @boundPart_of_emit _
    (.mk "Flatten" (some [("variableName", .str "flat")]) .none) _ hfound 1 ["layer_0"] _ _ hname
    (by decide) (hcode _ rfl) hline
  exact boundParts_cons_eq_ok.2 ⟨_, _, boundPart_assigningLayer,
    boundParts_cons_eq_ok.2 ⟨_, [], hflat, rfl, rfl⟩, rfl⟩

/-- The pipeline has its standard name and the other layer the one that it asks for. -/
theorem emits_submodules_mixed : ∃ code,
    (Inside.ofParts registry.resolve true (mixedLayers.map (·.part registry.resolve))).parts =
        .ok (mixedLayers.map (·.part registry.resolve)) ∧
      emit .null (.ofParts registry.resolve true (mixedLayers.map (·.part registry.resolve))) =
        .ok code ∧
      ∃ bound, (bound.map (·.1)).Nodup ∧
        List.Forall₂ (fun (p : Layer × Nat) b => IsSubmodule registry.resolve p.1 p.2 b)
          mixedLayers.zipIdx bound ∧
        blockBelow? "    def __init__(self):".toList (lines code.toList) =
          some ("        super().__init__()".toList ::
            bound.map (fun b : String × String =>
              ("        self." ++ b.1 ++ " = " ++ b.2).toList) ++ [[]]) ∧
        blockBelow? "    def forward(self, x):".toList (lines code.toList) =
          some (bound.map (fun b : String × String =>
            ("        " ++ "x" ++ " = self." ++ b.1 ++ "(" ++ "x" ++ ")").toList) ++
              ["        return x".toList]) := by
  have hinit : methodHeader "__init__" (params plainModule "constructorParams") =
      "    def __init__(self):" := by decide
  have hforward : methodHeader "forward" (params plainModule "forwardParams") =
      "    def forward(self, x):" := by decide
  have hcode : emit .null
      (.ofParts registry.resolve true (mixedLayers.map (·.part registry.resolve))) = .ok _ :=
    emit_eq parseValue_plainModule rfl boundParts_mixedLayers
  refine ⟨_, rfl, hcode, ?_⟩
  obtain ⟨settings, bound, hsettings, hblock, hdistinct, -, hall, hchain⟩ :=
    emits_submodules rfl hcode
  obtain rfl := Except.ok.inj (parseValue_plainModule.symm.trans hsettings)
  have hflow := hchain rfl "x" rfl
  rw [hinit] at hblock
  rw [hforward] at hflow
  exact ⟨bound, hdistinct, hall, hblock, hflow⟩

end LayerGraph.Node.Module
