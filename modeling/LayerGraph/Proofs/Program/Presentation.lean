import LayerGraph.Proofs.Node.Indifferent
import LayerGraph.Proofs.Program.Agreement
import LayerGraph.Proofs.Text.Case

/-! # The presentation of a graph

    Neither the case of ASCII letters in types nor the order of settings counts: documents that
    differ in nothing else, at whatever depth, give the same program, or errors of one kind about
    one key (`build_of_alike`). Such documents are read as layers that are alike, by induction over
    the document, and the layers are alike as parts.

    There is one exception. Keys that differ can be one text, as a string and its bytes are, and of
    the entries under such keys the last one counts (`build_twiceNamed`).
-/

namespace LayerGraph

variable {registry : Registry}

namespace Document

/-! ### Documents that are alike -/

/-- The types that the members of two layers name, if they are spelled with the same letters. -/
inductive TypesAlike (members others : List (Value × Value)) : Prop where
  | same (h : typeOf members = typeOf others) : TypesAlike members others
  | spelled {type other : String} (hmembers : typeOf members = .ok type)
      (hothers : typeOf others = .ok other) (h : Text.SameLetters type other) :
      TypesAlike members others

/-- The settings among the members of two layers, if they are the same or differ in their order
    only. In the second case at most one key is no setting of the type that the layer names. -/
inductive SettingsAlike (registry : Registry) (members others : List (Value × Value)) : Prop where
  | same (h : Value.member? "settings" members = Value.member? "settings" others) :
      SettingsAlike registry members others
  | reordered {entries other : List (Value × Value)}
      (hmembers : Value.member? "settings" members = some (.map entries))
      (hothers : Value.member? "settings" others = some (.map other))
      (h : Reordered entries other)
      (few : ∀ type plugin, typeOf members = .ok type → registry.resolve type = .ok plugin →
        (strangeKeys plugin.info.schema entries).length ≤ 1) : SettingsAlike registry members others

/-- Values where layers stand, or what a layer holds, that differ in nothing but the case of letters
    in types and the order of settings, at whatever depth. Of the members of a layer its type, its
    settings and its child are compared; the others do not count. -/
inductive Alike (registry : Registry) : Value → Value → Prop where
  | same (v : Value) : Alike registry v v
  | layer {members others : List (Value × Value)} (type : TypesAlike members others)
      (settings : SettingsAlike registry members others)
      (given : (Value.member? "child" members).isSome = (Value.member? "child" others).isSome)
      (child : ∀ {v w}, Value.member? "child" members = some v →
        Value.member? "child" others = some w → Alike registry v w) :
      Alike registry (.map members) (.map others)
  | list {items others : List Value} (length : items.length = others.length)
      (item : ∀ {v w}, (v, w) ∈ items.zip others → Alike registry v w) :
      Alike registry (.list items) (.list others)
  | tuple {items others : List Value} (length : items.length = others.length)
      (item : ∀ {v w}, (v, w) ∈ items.zip others → Alike registry v w) :
      Alike registry (.tuple items) (.tuple others)

/-- Graph documents that differ in nothing else: lists of layers, or objects with the same keys. -/
inductive GraphsAlike (registry : Registry) : Value → Value → Prop where
  | same (document : Value) : GraphsAlike registry document document
  | list {items others : List Value} (h : List.Forall₂ (Alike registry) items others) :
      GraphsAlike registry (.list items) (.list others)
  | map {members others : List (Value × Value)}
      (h : List.Forall₂ (fun member other => member.1 = other.1 ∧
        Alike registry member.2 other.2) members others) :
      GraphsAlike registry (.map members) (.map others)

/-! ### Reading them -/

/-- Both values are read, as things that belong together, or neither is. -/
abbrev ReadAlike {α β : Type} (results : α → β → Prop) (x : Except LayerFault α)
    (y : Except LayerFault β) : Prop :=
  Agree (fun _ _ => True) results x y

theorem ReadAlike.refl {α : Type} {results : α → α → Prop} (hresults : ∀ a, results a a)
    (x : Except LayerFault α) : ReadAlike results x x :=
  Agree.refl (fun _ => trivial) hresults x

theorem childIn_eq (members : List (Value × Value)) :
    childIn members = (Value.member? "child" members).elim (.ok .none) childOf := by
  induction members with
  | nil => rfl
  | cons member rest ih =>
    obtain ⟨key, value⟩ := member
    rw [childIn, Value.member?]
    split
    · rfl
    · exact ih

theorem readAlike_typeOf {members others : List (Value × Value)} (h : TypesAlike members others) :
    ReadAlike (fun type other => Text.lower type = Text.lower other) (typeOf members)
      (typeOf others) := by
  cases h with
  | same h =>
    rw [h]
    apply ReadAlike.refl
    intro type
    rfl
  | spelled hmembers hothers h =>
    rw [hmembers, hothers]
    exact .ok h.lower_eq

theorem readAlike_settingsOf {members others : List (Value × Value)}
    (h : SettingsAlike registry members others) {type : String}
    (htype : typeOf members = .ok type) :
    ReadAlike (Layer.SettingsAlike registry type) (settingsOf members)
      (settingsOf others) := by
  cases h with
  | same h =>
    unfold settingsOf
    rw [h]
    exact ReadAlike.refl .same _
  | @reordered entries other hmembers hothers h few =>
    unfold settingsOf
    rw [hmembers, hothers]
    dsimp only
    -- either both mappings are read, or a key of each is no text
    have hboth := h.isOk_iff
    cases hentries : entriesOf entries with
    | error fault =>
      cases hother : entriesOf other with
      | error _ => exact .error trivial
      | ok settings => simp [hentries, hother] at hboth
    | ok settings =>
      cases hother : entriesOf other with
      | error _ => simp [hentries, hother] at hboth
      | ok others =>
        refine .ok (.rearranged (h.rearranged hentries hother) fun plugin found => ?_)
        exact (length_unknownKeys_le hentries).trans (few type plugin htype found)

/-- What layers hold, if it is alike layer by layer. -/
abbrev ChildrenAlike (registry : Registry) (child other : Child) : Prop :=
  List.Forall₂ (Layer.Alike registry) child.layers other.layers

theorem ChildrenAlike.refl (child : Child) : ChildrenAlike registry child child :=
  List.forall₂_same.2 fun layer _ => .refl layer

theorem readAlike_ofMembers {members others : List (Value × Value)}
    (htype : TypesAlike members others) (hsettings : SettingsAlike registry members others)
    {child other : Except LayerFault Child}
    (hchild : ReadAlike (ChildrenAlike registry) child other) :
    ReadAlike (Layer.Alike registry) (ofMembers members child) (ofMembers others other) := by
  unfold ofMembers
  apply (readAlike_typeOf htype).bind
  intro type spelling hread hlower
  apply (readAlike_settingsOf hsettings hread).bind
  intro settings rearranged _ halike
  apply hchild.bind
  intro child other _ hlayers
  obtain ⟨hlength, hzip⟩ := List.forall₂_iff_zip.1 hlayers
  exact .ok (.intro hlower halike hlength hzip)

theorem readAlike_layersOf {items others : List Value}
    (h : List.Forall₂ (fun v w => ReadAlike (Layer.Alike registry) (layerOf v) (layerOf w)) items
      others) :
    ReadAlike (List.Forall₂ (Layer.Alike registry)) (layersOf items) (layersOf others) := by
  induction h with
  | nil => exact .ok .nil
  | cons hitem _ ih =>
    rw [layersOf, layersOf]
    apply hitem.bind
    intro layer other _ hlayer
    apply ih.bind
    intro layers others _ hlayers
    exact .ok (.cons hlayer hlayers)

theorem readAlike_oneOf {layer other : Except LayerFault Layer}
    (h : ReadAlike (Layer.Alike registry) layer other) :
    ReadAlike (ChildrenAlike registry) (oneOf layer) (oneOf other) := by
  unfold oneOf
  refine Agree.mapError (h.map fun _ _ hlayer => ?_) fun _ _ _ => trivial
  exact .cons hlayer .nil

theorem readAlike_manyOf {layers others : Except LayerFault (List Layer)}
    (h : ReadAlike (List.Forall₂ (Layer.Alike registry)) layers others) :
    ReadAlike (ChildrenAlike registry) (manyOf layers) (manyOf others) := by
  cases h with
  | ok h => exact .ok h
  | error => exact .error trivial

/-- Values that are alike are read alike, whether as layers or as what a layer holds. -/
theorem Alike.read {v w : Value} (h : Alike registry v w) :
    ReadAlike (Layer.Alike registry) (layerOf v) (layerOf w) ∧
      ReadAlike (ChildrenAlike registry) (childOf v) (childOf w) := by
  induction h with
  | same v =>
    exact ⟨ReadAlike.refl .refl (layerOf v), ReadAlike.refl .refl (childOf v)⟩
  | @layer members others htype hsettings hgiven _ ih =>
    have hchild : ReadAlike (ChildrenAlike registry) (childIn members) (childIn others) := by
      rw [childIn_eq, childIn_eq]
      cases hmember : Value.member? "child" members with
      | none =>
        cases hother : Value.member? "child" others with
        | none => exact .ok (.refl _)
        | some w => simp [hmember, hother] at hgiven
      | some v =>
        cases hother : Value.member? "child" others with
        | none => simp [hmember, hother] at hgiven
        | some w => exact (ih hmember hother).2
    have hlayer := readAlike_ofMembers htype hsettings hchild
    rw [layerOf, layerOf, childOf, childOf]
    exact ⟨hlayer, readAlike_oneOf hlayer⟩
  -- a row of layers is no layer itself
  | list hlength _ ih =>
    have hitems := List.forall₂_iff_zip.2 ⟨hlength, fun hmem => (ih hmem).1⟩
    rw [childOf, childOf]
    exact ⟨.error trivial, readAlike_manyOf (readAlike_layersOf hitems)⟩
  | tuple hlength _ ih =>
    have hitems := List.forall₂_iff_zip.2 ⟨hlength, fun hmem => (ih hmem).1⟩
    rw [childOf, childOf]
    exact ⟨.error trivial, readAlike_manyOf (readAlike_layersOf hitems)⟩

/-- The member under a key is alike in objects whose members are. -/
theorem member?_alike {members others : List (Value × Value)}
    (h : List.Forall₂ (fun member other => member.1 = other.1 ∧ Alike registry member.2 other.2)
      members others) (key : String) :
    Option.Rel (Alike registry) (Value.member? key members) (Value.member? key others) := by
  induction h with
  | nil => exact .none
  | @cons member other rest others hmember _ ih =>
    rw [Value.member?, Value.member?, hmember.1]
    split
    · exact .some hmember.2
    · exact ih

/-- Documents that are alike give items that are, or neither is a graph. -/
theorem itemsOf_alike {document other : Value} (h : GraphsAlike registry document other) :
    Agree GraphError.Alike (List.Forall₂ (Alike registry)) (itemsOf document) (itemsOf other) := by
  have hself : ∀ items : List Value, List.Forall₂ (Alike registry) items items :=
    fun items => List.forall₂_same.2 fun v _ => .same v
  cases h with
  | same => exact .refl .refl hself _
  | list h => exact .ok h
  | @map members others h =>
    have hvalues : List.Forall₂ (Alike registry) (members.map (·.2)) (others.map (·.2)) := by
      rw [List.forall₂_map_left_iff, List.forall₂_map_right_iff]
      exact h.imp fun _ _ hmember => hmember.2
    have hlayers := member?_alike h "layers"
    unfold itemsOf
    dsimp only
    generalize Value.member? "layers" members = found at hlayers ⊢
    generalize Value.member? "layers" others = foundOther at hlayers ⊢
    -- a list under `layers` is one in both, and anything else is a layer like the others
    cases hlayers with
    | none => exact .ok hvalues
    | @some v w hvalue =>
      cases hvalue with
      | same =>
        cases v with
        | list items => exact .ok (hself items)
        | _ => exact .ok hvalues
      | layer => exact .ok hvalues
      | list hlength hitem => exact .ok (List.forall₂_iff_zip.2 ⟨hlength, hitem⟩)
      | tuple => exact .ok hvalues

/-- Documents that are alike are read as layers that are, or neither is a graph. -/
theorem layers_alike {document other : Value} (h : GraphsAlike registry document other) :
    Agree GraphError.Alike (List.Forall₂ (Layer.Alike registry)) (layers document)
      (layers other) := by
  apply (itemsOf_alike h).bind
  intro items others _ hitems
  have hread := readAlike_layersOf (hitems.imp fun _ _ hitem => hitem.read.1)
  exact hread.mapError fun _ _ _ => ⟨rfl, rfl, rfl⟩

end Document

namespace Program

section indifferent
variable (indifferent : registry.IsIndifferent)
include indifferent

theorem sameOutcome_codeOf {layers others : List Layer}
    (h : List.Forall₂ (Layer.Alike registry) layers others)
    (formatter : Option Fragment.Formatter) :
    SameOutcome (codeOf registry.resolve layers formatter)
      (codeOf registry.resolve others formatter) := by
  unfold codeOf
  rw [fragments_eq_mapM, fragments_eq_mapM]
  have hall : SameOutcome (layers.mapM (fragment registry.resolve))
      (others.mapM (fragment registry.resolve)) :=
    Agree.mapM h fun _ _ hlayer => (hlayer.part indifferent).code
  apply hall.bind
  intro all _
  exact .of_eq rfl

/-- Layers that are alike give the same program, or fail in the same way. -/
theorem sameOutcome_ofLayers {layers others : List Layer}
    (h : List.Forall₂ (Layer.Alike registry) layers others) (includeImports : Bool)
    (formatter : Option Fragment.Formatter) :
    SameOutcome (ofLayers registry.resolve layers includeImports formatter)
      (ofLayers registry.resolve others includeImports formatter) := by
  unfold ofLayers
  apply (sameOutcome_codeOf indifferent h none).bind
  intro body _
  have hmetadata : SameAnswer (collectMetadata registry.resolve layers)
      (collectMetadata registry.resolve others) := by
    apply (sameAnswer_visit h).map
    intro infos others hinfos
    rw [hinfos]
  apply hmetadata.sameOutcome.bind
  intro metadata _
  exact .of_eq rfl

theorem sameOutcome_build {document other : Value}
    (h : Document.GraphsAlike registry document other) (includeImports : Bool)
    (formatter : Option Fragment.Formatter) :
    SameOutcome (build registry.resolve document includeImports formatter)
      (build registry.resolve other includeImports formatter) := by
  unfold build
  apply ((Document.layers_alike h).mapError fun _ _ => .graph).bind
  intro layers others _ hlayers
  exact sameOutcome_ofLayers indifferent hlayers includeImports formatter

end indifferent

/-- The presentation of a graph does not matter.

    Two documents that differ in the case of ASCII letters in types and in the order of settings
    only, at whatever depth, either give the same program, with its import lines and packages, or
    fail with errors of one kind about the same keys. Settings in another order have at most one key
    that is no setting of the type, and among them keys that are one text, as a string and its bytes
    are, stay in order. -/
theorem build_of_alike {document other : Value}
    (h : Document.GraphsAlike Node.registry document other) (includeImports : Bool)
    (formatter : Option Fragment.Formatter) :
    SameOutcome (build Node.registry.resolve document includeImports formatter)
      (build Node.registry.resolve other includeImports formatter) :=
  sameOutcome_build Node.registry_isIndifferent h includeImports formatter

/-- A module with a layer inside, with these types and these settings. -/
def moduleOf (type inner : String) (settings : List (Value × Value)) : Value :=
  .list [.map [(.str "type", .str type), (.str "settings", .map settings),
    (.str "child", .list [.map [(.str "type", .str inner)]])]]

/-- The settings of a module. -/
def moduleSettings : List (Value × Value) :=
  [(.str "className", .str "Net"), (.str "forwardParams", .list [.str "image"])]

theorem build_of_alike_module :
    Document.GraphsAlike Node.registry (moduleOf "NNModule" "ReLU" moduleSettings)
        (moduleOf "nnMODULE" "relu" moduleSettings.reverse) ∧
      SameOutcome
        (build Node.registry.resolve (moduleOf "NNModule" "ReLU" moduleSettings) true none)
        (build Node.registry.resolve (moduleOf "nnMODULE" "relu" moduleSettings.reverse) true
          none) := by
  have hreordered : Document.Reordered moduleSettings moduleSettings.reverse :=
    .of_perm (List.reverse_perm _).symm (by decide)
  have halike : Document.GraphsAlike Node.registry (moduleOf "NNModule" "ReLU" moduleSettings)
      (moduleOf "nnMODULE" "relu" moduleSettings.reverse) := by
    refine .list (.cons (.layer ?type ?settings rfl ?child) .nil)
    case type => exact .spelled rfl rfl (by simp [Text.SameLetters])
    case settings =>
      -- both keys are settings of a module, so none is unknown
      refine .reordered rfl rfl hreordered ?_
      intro type plugin htype found
      obtain rfl := Except.ok.inj htype
      have hmem : Node.Module.plugin ∈ Node.builtins := by simp [Node.builtins]
      obtain rfl := Except.ok.inj ((Node.resolve_of_mem_builtins hmem).symm.trans found)
      have hnone : Document.strangeKeys Node.Module.plugin.info.schema moduleSettings = [] := rfl
      rw [hnone]
      exact Nat.zero_le 1
    case child =>
      -- inside there is one layer, whose type is spelled in two ways
      intro v w hv hw
      obtain rfl := Option.some.inj hv
      obtain rfl := Option.some.inj hw
      refine .list rfl ?_
      intro inner outer hmem
      obtain ⟨rfl, rfl⟩ := Prod.mk.inj (List.mem_singleton.1 hmem)
      refine .layer (.spelled rfl rfl (by simp [Text.SameLetters])) (.same rfl) rfl ?_
      intro v w hv _
      cases hv
  exact ⟨halike, build_of_alike halike true none⟩

/-! ### Keys that are one text -/

/-- A layer with these settings. -/
def softmaxOf (settings : List (Value × Value)) : Value :=
  .list [.map [(.str "type", .str "Softmax"), (.str "settings", .map settings)]]

/-- The program of such a layer has the code of the layer. -/
theorem build_softmaxOf {settings : List (Value × Value)} {entries : Entries} {code : String}
    (hlayers : Document.layers (softmaxOf settings) = .ok [.mk "Softmax" (some entries) .none])
    (hcode : codeOf Node.registry.resolve [.mk "Softmax" (some entries) .none] none = .ok code) :
    build Node.registry.resolve (softmaxOf settings) false none =
      .ok ⟨code, Node.softmax.imports, Node.softmax.dependencies⟩ := by
  have hmem : Node.softmax.plugin ∈ Node.builtins := by simp [Node.builtins]
  have hvisit : visit Node.registry.resolve [.mk "Softmax" (some entries) .none] =
      .ok [Node.softmax.plugin.info] := by
    have found : Node.registry.resolve "Softmax" = .ok Node.softmax.plugin :=
      Node.resolve_of_mem_builtins hmem
    rw [visit, Layer.type, found]
    show visit Node.registry.resolve [] >>= _ = _
    rw [visit]
    rfl
  have hmetadata : collectMetadata Node.registry.resolve [.mk "Softmax" (some entries) .none] =
      .ok ⟨Node.softmax.imports, Node.softmax.dependencies⟩ := by
    unfold collectMetadata
    rw [hvisit]
    rfl
  unfold build
  rw [hlayers]
  exact ofLayers_of_code hcode hmetadata none

/-- Settings with one dimension under a text and another one under its bytes. -/
def twiceNamed : List (Value × Value) :=
  [(.str "dim", .int 0), (.bytes [100, 105, 109], .int 1)]

/-- Settings of the type alone, in two orders, give different programs. -/
theorem build_twiceNamed :
    twiceNamed.Perm twiceNamed.reverse ∧
      Document.strangeKeys Node.softmax.schema twiceNamed = [] ∧
        ¬SameOutcome (build Node.registry.resolve (softmaxOf twiceNamed) false none)
          (build Node.registry.resolve (softmaxOf twiceNamed.reverse) false none) := by
  refine ⟨(List.reverse_perm _).symm, rfl, fun h => ?_⟩
  -- the value that is written last counts, under whichever key
  have hlast : codeOf Node.registry.resolve [.mk "Softmax" (some [("dim", .int 1)]) .none] none =
      .ok "torch.nn.Softmax(dim=1)" := Result.eq_ok_of_toOption (by decide +kernel)
  have hfirst : codeOf Node.registry.resolve [.mk "Softmax" (some [("dim", .int 0)]) .none] none =
      .ok "torch.nn.Softmax(dim=0)" := Result.eq_ok_of_toOption (by decide +kernel)
  rw [build_softmaxOf rfl hlast, build_softmaxOf rfl hfirst] at h
  cases h with
  | ok h =>
    have hcodes := congrArg Program.code h
    simp at hcodes

end Program

end LayerGraph
