import LayerGraph.Proofs.Flow.Chain
import LayerGraph.Proofs.Node.Expressions
import LayerGraph.Proofs.Node.Rebinding
import LayerGraph.Proofs.Setting.Added

/-! # The chain that is stated

    Without a data flow, a single parameter is passed through the layers of a module in order. The
    same chain can be stated: as a data flow that has one statement for each layer (`statedChain`).
    A data flow is read as text, and so the two need not agree. They do exactly if each name in the
    chain is bound to its layer where it stands alone, and the parameter is left as it is
    (`emits_statedChain`): always for names that are words, but not for those with characters that
    stand in identifiers and in no word.
-/

namespace LayerGraph.Node.Module

open Fragment (stack)
open LayerGraph.Flow (chainLines IsNameText IsSolid)
open Text (unlines)

/-- The data flow that passes a parameter through the layers of some names, one after the other. -/
def statedChain (x : String) (names : List String) : String :=
  stack (names.map (fun name => x ++ " = " ++ name ++ "(" ++ x ++ ")") ++ ["return " ++ x])

theorem toList_lastLine (x : String) : ("return " ++ x).toList = Flow.lastLine x.toList :=
  String.toList_append

theorem toList_statedChain (x : String) (names : List String) :
    (statedChain x names).toList = unlines (chainLines x.toList (names.map String.toList)) := by
  have hlink : String.toList ∘ (fun name => x ++ " = " ++ name ++ "(" ++ x ++ ")") =
      Flow.linkLine x.toList ∘ String.toList :=
    funext fun name => by simp [Flow.linkLine]
  rw [statedChain, Fragment.toList_stack, List.map_append, List.map_map, hlink, List.map_singleton,
    toList_lastLine, chainLines, List.map_map]

/-- Without a data flow the statements are those of a chain through the attributes. -/
theorem toList_chain {settings : Entries} {x : String}
    (hx : settings.texts "forwardParams" = [x]) (names : List String) :
    (chain settings names).toList =
      unlines (chainLines x.toList ((names.map String.toList).map ("self.".toList ++ ·))) := by
  have hlink : String.toList ∘ chainLink x =
      (Flow.linkLine x.toList ∘ ("self.".toList ++ ·)) ∘ String.toList :=
    funext fun name => by simp [Flow.linkLine, chainLink]
  unfold chain
  rw [hx, Fragment.toList_stack, List.map_append, List.map_map, hlink, List.map_singleton,
    toList_lastLine, chainLines, List.map_map, List.map_map]

theorem isBlank_statedChain {x : String} (hx : Text.isName x = true) (names : List String) :
    Fragment.isBlank (statedChain x names) = false := by
  have hlast : IsSolid (Flow.lastLine x.toList) :=
    (Flow.isNameText_of_isName hx).isSolid.append (by decide)
  rw [Fragment.isBlank, toList_statedChain, Text.isBlankText_unlines, chainLines, List.all_append,
    List.all_cons, hlast.isBlankText_eq_false, Bool.false_and, Bool.and_false]

/-- Statements that end in no blanks are told by the body that they become. -/
theorem eq_of_body_eq {ls others : List (List Char)} (hls : ∀ line ∈ ls, IsSolid line)
    (hothers : ∀ line ∈ others, IsSolid line) (hne : ls ≠ []) (hne' : others ≠ [])
    (h : Fragment.body (String.ofList (unlines ls)) 2 =
      Fragment.body (String.ofList (unlines others)) 2) :
    String.ofList (unlines ls) = String.ofList (unlines others) := by
  have hblank {ls : List (List Char)} (hne : ls ≠ []) (hls : ∀ line ∈ ls, IsSolid line) :
      Fragment.isBlank (String.ofList (unlines ls)) = false := by
    rw [Fragment.isBlank, String.toList_ofList, Flow.isBlankText_of_isSolid hne hls]
  have htexts := Fragment.trimBreaks_eq_of_body_eq (hblank hne hls) (hblank hne' hothers) h
  rw [String.toList_ofList, String.toList_ofList, Flow.trimBreaks_of_isSolid hne hls,
    Flow.trimBreaks_of_isSolid hne' hothers] at htexts
  rw [htexts]

/-! ### Names -/

/-- Without layers no name holds one. -/
theorem layersIn_eq_nil_of_nil {names : List String} (x : List Char)
    (h : names.map String.toList = []) : Flow.layersIn names x = [] := by
  obtain rfl := List.map_eq_nil_iff.1 h
  exact List.filter_eq_nil_iff.2 fun t _ => by simp [Flow.Token.isLayer]

section names
variable {names : List String} (hnames : ∀ name ∈ names, isAttribute name = true)
  {x : String} (hx : Text.isName x = true)
include hnames

theorem self_not_mem : "self" ∉ names := fun hmem => absurd (hnames _ hmem) (by decide)

theorem return_not_mem : "return" ∉ names := fun hmem => absurd (hnames _ hmem) (by decide)

theorem isName_of_mem {name : String} (hname : name ∈ names) : Text.isName name = true :=
  (Bool.and_eq_true_iff.1 (hnames name hname)).1

theorem isNameText_of_mem : ∀ a ∈ names.map String.toList, IsNameText a :=
  List.forall_mem_map.2 fun _ hname => Flow.isNameText_of_isName (isName_of_mem hnames hname)

include hx

/-- A chain that is stated is bound to the attributes exactly if each of its names is. -/
theorem bind_statedChain_iff {settings : Entries} (hparam : settings.texts "forwardParams" = [x]) :
    Flow.bind names (statedChain x names) = .ok (chain settings names) ↔
      Flow.bind names x = .ok x ∧ ∀ name ∈ names, Flow.bind names name = .ok ("self." ++ name) := by
  have hiff := Flow.bind_chain_iff (self_not_mem hnames) (return_not_mem hnames)
    (Flow.isNameText_of_isName hx) (isNameText_of_mem hnames) (layersIn_eq_nil_of_nil _)
  rw [← toList_statedChain, ← toList_chain hparam, String.ofList_toList, String.ofList_toList,
    String.ofList_toList, List.forall_mem_map] at hiff
  simpa only [String.ofList_append, String.ofList_toList] using hiff

/-- What a chain that is stated is bound to is told by the body that it becomes. -/
theorem eq_chain_of_body_eq {settings : Entries} (hparam : settings.texts "forwardParams" = [x])
    {flow : String} (hflow : Flow.bind names (statedChain x names) = .ok flow)
    (hbody : Fragment.body flow 2 = Fragment.body (chain settings names) 2) :
    flow = chain settings names := by
  have hparameter := Flow.isNameText_of_isName hx
  have hstated := toList_statedChain x names
  have hchain := toList_chain hparam names
  rw [← String.ofList_inj, String.ofList_toList] at hstated hchain
  rw [hstated] at hflow
  obtain ⟨bound, rfl, hbreak⟩ := Flow.exists_of_bind_chain (self_not_mem hnames)
    (return_not_mem hnames) hparameter (isNameText_of_mem hnames) (layersIn_eq_nil_of_nil _) hflow
  have hattributes : ∀ a ∈ (names.map String.toList).map ("self.".toList ++ ·), '\n' ∉ a :=
    List.forall_mem_map.2 fun a ha hmem => (List.mem_append.1 hmem).elim (by decide)
      (isNameText_of_mem hnames a ha).isSolid.noBreak
  rw [hchain] at hbody ⊢
  exact eq_of_body_eq (Flow.isSolid_chain hparameter hbreak)
    (Flow.isSolid_chain hparameter hattributes) (Flow.chainLines_ne_nil _ _)
    (Flow.chainLines_ne_nil _ _) hbody

end names

/-! ### The class -/

theorem dataFlow_mem : withStandard "dataFlow" .text (.str "") ∈ schema :=
  List.getElem_mem (n := 3) (by decide)

/-- The texts of the class are made of other settings than the data flow. -/
theorem texts_set_dataFlow (settings : Entries) (v : Value) :
    texts (settings.set "dataFlow" v) = texts settings := by
  have hother {key : String} (hne : key ≠ "dataFlow") :
      (settings.set "dataFlow" v).get? key = settings.get? key := Entries.get?_set_of_ne hne _ _
  funext bound flow
  unfold texts Entries.text Entries.texts
  rw [hother (by decide), hother (by decide), hother (by decide)]

/-- A class is told by its name, its attributes and the body of `forward`. -/
theorem body_eq_of_texts {settings : Entries} {bound : List (String × String)} {flow other : String}
    (h : stack (texts settings bound flow) = stack (texts settings bound other)) :
    Fragment.body flow 2 = Fragment.body other 2 := by
  obtain ⟨front, hfront⟩ : ∃ front, ∀ flow,
      texts settings bound flow = front ++ [Fragment.body flow 2] := ⟨[_, _, _, _, _], fun _ => rfl⟩
  rw [hfront, hfront] at h
  exact Fragment.stack_concat_inj.1 h

section settings
variable {given : Entries} {inside : Inside} {settings : Entries} {parts : List Part}
  {bound : List (String × String)} {x : String}
  (hsettings : schema.parseValue typeKey (.ofEntries given) = .ok settings)
  (hfree : given.get? "dataFlow" = none)
  (hparts : inside.parts = .ok parts) (hbound : boundParts 0 [] parts = .ok bound)
include hsettings hfree hparts hbound

/-- Without a data flow a module whose layers are bound is a class around their chain. -/
theorem emit_chain : emit (.ofEntries given) inside =
    .ok (stack (texts settings bound (chain settings (bound.map (·.1))))) := by
  have hstandard : settings.get? "dataFlow" = some (.str "") :=
    Schema.get?_of_not_given (by decide) hsettings dataFlow_mem hfree
  have hnone : settings.text "dataFlow" = "" := by
    unfold Entries.text
    rw [hstandard]
  rw [emit_eq hsettings hparts hbound, forward_eq, hnone]
  rfl

/-- If a data flow is added, the class is the same but for the statements of `forward`. -/
theorem emit_set_dataFlow {dataFlow : String} (hsolid : Fragment.isBlank dataFlow = false) :
    emit (.ofEntries (given.set "dataFlow" (.str dataFlow))) inside =
      ((Flow.bind (bound.map (·.1)) dataFlow).mapError fun reason =>
        .graph (.invalidSetting typeKey "dataFlow" reason)).map fun flow =>
          stack (texts settings bound flow) := by
  have hadded : schema.parseValue typeKey (.ofEntries (given.set "dataFlow" (.str dataFlow))) =
      .ok (settings.set "dataFlow" (.str dataFlow)) :=
    Schema.parseValue_set (by decide) hsettings dataFlow_mem hfree nofun rfl
  have hread : (settings.set "dataFlow" (.str dataFlow)).text "dataFlow" = dataFlow := by
    unfold Entries.text
    rw [Entries.get?_set_self]
  rw [emit_eq hadded hparts hbound, forward_eq, hread, texts_set_dataFlow, hsolid,
    if_neg Bool.false_ne_true]

/-- With the chain stated the class is the same exactly if the chain is bound to the attributes. -/
theorem emit_statedChain_iff (hparam : settings.texts "forwardParams" = [x]) :
    emit (.ofEntries (given.set "dataFlow" (.str (statedChain x (bound.map (·.1)))))) inside =
        emit (.ofEntries given) inside ↔
      Flow.bind (bound.map (·.1)) (statedChain x (bound.map (·.1))) =
        .ok (chain settings (bound.map (·.1))) := by
  have hx := isName_of_forwardParams hsettings x (hparam ▸ List.mem_cons_self)
  rw [emit_set_dataFlow hsettings hfree hparts hbound (isBlank_statedChain hx _),
    emit_chain hsettings hfree hparts hbound]
  constructor
  · intro h
    obtain ⟨flow, hflow, htexts⟩ := Result.map_eq_ok.1 h
    have hbind := Result.mapError_eq_ok.1 hflow
    rw [hbind, eq_chain_of_body_eq (isAttribute_of_boundParts hbound) hx hparam hbind
      (body_eq_of_texts htexts)]
  · intro h
    rw [h]
    rfl

end settings

/-- A single parameter is passed through the layers of a module in the same way without a data flow
    and with the data flow that states the chain, as far as the names in it are bound.

    Without a data flow, a module whose layers are bound is always written. With the chain stated it
    becomes the same class exactly if each name of a layer is bound to the layer where it stands
    alone, and the parameter to nothing. So it is if all these names are words and the parameter is
    not the name of a layer. But a name that holds a character of no word is not bound, unless there
    is another layer whose name stands inside it. -/
theorem emits_statedChain {given : Entries} {inside : Inside} {settings : Entries}
    {parts : List Part} {bound : List (String × String)} {x : String}
    (hsettings : schema.parseValue typeKey (.ofEntries given) = .ok settings)
    (hfree : given.get? "dataFlow" = none) (hparam : settings.texts "forwardParams" = [x])
    (hparts : inside.parts = .ok parts) (hbound : boundParts 0 [] parts = .ok bound) :
    let names := bound.map (·.1)
    let stated := given.set "dataFlow" (.str (statedChain x names))
    (∃ code, emit (.ofEntries given) inside = .ok code) ∧
      (emit (.ofEntries stated) inside = emit (.ofEntries given) inside ↔
        Flow.bind names x = .ok x ∧
          ∀ name ∈ names, Flow.bind names name = .ok ("self." ++ name)) ∧
      (x ∉ names → (∀ name ∈ x :: names, ∀ c ∈ name.toList, Text.isWord c = true) →
        emit (.ofEntries stated) inside = emit (.ofEntries given) inside) ∧
      ∀ name ∈ names, ∀ c ∈ name.toList, Text.isWord c = false →
        (∀ other ∈ names, other ≠ name → ¬other.toList <:+: name.toList) →
          emit (.ofEntries stated) inside ≠ emit (.ofEntries given) inside := by
  intro names stated
  have hnames : ∀ name ∈ names, isAttribute name = true := isAttribute_of_boundParts hbound
  have hx := isName_of_forwardParams hsettings x (hparam ▸ List.mem_cons_self)
  have hself := self_not_mem hnames
  have hexact := (emit_statedChain_iff hsettings hfree hparts hbound hparam).trans
    (bind_statedChain_iff hnames hx hparam)
  refine ⟨⟨_, emit_chain hsettings hfree hparts hbound⟩, hexact, ?words, ?strange⟩
  case words =>
    refine fun hother hwords => hexact.2 ⟨?_, fun name hname => ?_⟩
    · rw [Flow.bind_word hself hx (hwords x List.mem_cons_self), if_neg hother]
    · rw [Flow.bind_word hself (isName_of_mem hnames hname)
        (hwords name (List.mem_cons_of_mem _ hname)), if_pos hname]
  case strange =>
    intro name hname c hc hstrange hothers hsame
    have hleft := Flow.bind_of_not_isWord hself (isName_of_mem hnames hname) hc hstrange hothers
    have hqualified := Except.ok.inj (hleft.symm.trans ((hexact.1 hsame).2 name hname))
    -- a name is never as long as it is with the class in front
    have hlength := congrArg String.length hqualified
    rw [String.length_append] at hlength
    exact absurd hlength (by simp)

/-- A layer that asks for a name. -/
def namedLayer (name : String) : Layer := .mk "ReLU" (some [("variableName", .str name)]) .none

/-- What a module holds whose only layer asks for a name. -/
def insideNamed (name : String) : Inside :=
  (Child.one (namedLayer name)).inside fun _ => .ok relu.plugin

theorem boundParts_namedLayer {name : String} (hname : isAttribute name = true) :
    boundParts 0 [] [(namedLayer name).part fun _ => .ok relu.plugin] =
      .ok [(name, "torch.nn.ReLU()")] := by
  have htruthy : (Value.str name).truthy = true := by
    have hne : name ≠ "" := by
      rintro rfl
      exact absurd hname (by decide)
    simpa [Value.truthy] using hne
  have hwanted : wantedName 0 [("variableName", .str name)] = .str name := if_pos htruthy
  have hattribute : attributeName 0 [("variableName", .str name)] = .ok name := by
    have hkept : (some name).filter isAttribute = some name := by
      rw [Option.filter_some, if_pos hname]
    unfold attributeName
    dsimp only
    rw [hwanted, Value.text?, hkept]
  have hown : boundSettings relu.info [("variableName", .str name)] = [("variableName", .null)] :=
    rfl
  have hcode : relu.emit (.ofEntries (boundSettings relu.info [("variableName", .str name)]))
      (Child.none.inside fun _ => .ok relu.plugin) = .ok "torch.nn.ReLU()" := by
    rw [hown]
    cbv
  have htrimmed : trimmed "torch.nn.ReLU()" = "torch.nn.ReLU()" := by cbv
  have hline : (trimmed "torch.nn.ReLU()").contains '\n' = false := by cbv
  have hbound := @boundPart_of_emit (fun _ => .ok relu.plugin) (namedLayer name) relu.plugin rfl 0
    [] name _ hattribute rfl hcode hline
  rw [htrimmed] at hbound
  exact boundParts_cons_eq_ok.2 ⟨(name, "torch.nn.ReLU()"), [], hbound, rfl, rfl⟩

theorem parseValue_none : schema.parseValue typeKey (.ofEntries []) = .ok (settingsOf "") := by
  cbv

/-- A layer whose name is a word. -/
theorem emits_statedChain_fc :
    schema.parseValue typeKey (.ofEntries []) = .ok (settingsOf "") ∧
      (settingsOf "").texts "forwardParams" = ["x"] ∧
      boundParts 0 [] [(namedLayer "fc").part fun _ => .ok relu.plugin] =
        .ok [("fc", "torch.nn.ReLU()")] ∧
      emit (.ofEntries [("dataFlow", .str "x = fc(x)\nreturn x")]) (insideNamed "fc") =
        emit (.ofEntries []) (insideNamed "fc") := by
  have hbound := @boundParts_namedLayer "fc" (by decide)
  have hstated : statedChain "x" ["fc"] = "x = fc(x)\nreturn x" := by decide
  have hparts : (insideNamed "fc").parts =
      .ok [(namedLayer "fc").part fun _ => .ok relu.plugin] := rfl
  have hwords : ∀ name ∈ ["x", "fc"], ∀ c ∈ name.toList, Text.isWord c = true :=
    List.forall_mem_cons.2 ⟨List.all_eq_true.1 rfl,
      List.forall_mem_singleton.2 (List.all_eq_true.1 rfl)⟩
  have hadded : Entries.set [] "dataFlow" (.str (statedChain "x" ["fc"])) =
      [("dataFlow", .str "x = fc(x)\nreturn x")] := by
    rw [hstated]
    rfl
  have hsame : emit (.ofEntries (Entries.set [] "dataFlow" (.str (statedChain "x" ["fc"]))))
      (insideNamed "fc") = emit (.ofEntries []) (insideNamed "fc") :=
    (emits_statedChain parseValue_none rfl rfl hparts hbound).2.2.1 (by decide) hwords
  rw [hadded] at hsame
  exact ⟨parseValue_none, rfl, hbound, hsame⟩

/-- A layer whose name ends in a combining accent: the name is an identifier, and no word. In the
    data flow it falls into a word and an accent, neither of which is the name of a layer. -/
theorem emit_accentedChain :
    isAttribute "e\u0301" = true ∧
      emit (.ofEntries []) (insideNamed "e\u0301") =
        .ok ("class NeuralNetwork(nn.Module):\n    def __init__(self):\n" ++
          "        super().__init__()\n        self.e\u0301 = torch.nn.ReLU()\n\n" ++
          "    def forward(self, x):\n        x = self.e\u0301(x)\n        return x") ∧
      emit (.ofEntries [("dataFlow", .str "x = e\u0301(x)\nreturn x")]) (insideNamed "e\u0301") =
        .ok ("class NeuralNetwork(nn.Module):\n    def __init__(self):\n" ++
          "        super().__init__()\n        self.e\u0301 = torch.nn.ReLU()\n\n" ++
          "    def forward(self, x):\n        x = e\u0301(x)\n        return x") := by
  have hname : isAttribute "e\u0301" = true := by decide +kernel
  have hbound := boundParts_namedLayer hname
  have hbind : Flow.bind ["e\u0301"] "x = e\u0301(x)\nreturn x" =
      .ok "x = e\u0301(x)\nreturn x" := by
    decide +kernel
  refine ⟨hname, ?_, ?_⟩
  · rw [emit_chain parseValue_none rfl rfl hbound]
    exact Result.eq_ok_of_toOption (by decide +kernel)
  · rw [emit_dataFlow rfl hbound rfl hbind]
    exact Result.eq_ok_of_toOption (by decide +kernel)

end LayerGraph.Node.Module
