import LayerGraph.Node.Custom
import LayerGraph.Proofs.Service.Blame

/-! # Answers in words

    The registry of a service may hold plugins of any kind. A plugin is *orderly* if it fails with
    errors of the graph only, provided that the layers inside it do. With orderly plugins every
    order is answered with its program or with an error object, whose status tells who is to blame
    (`answers_in_words`); factories that fail, or that make no plugins, do not change that. What any
    other plugin fails with escapes, unless the plugin comes with an answer of its own. No answer
    tells anything of the defect of a plugin but the plugin's own.
-/

namespace LayerGraph

/-- A failure that is an error of the graph. -/
def Failure.IsGraph (failure : Failure) : Prop := ∃ error, failure = .graph error

/-- A registry whose plugins fail with errors of the graph only. -/
structure Registry.IsOrderly (registry : Registry) : Prop where
  plugin : ∀ type plugin, registry.resolve type = .ok plugin → plugin.IsFair Failure.IsGraph
  standards : ∀ type plugin, registry.resolve type = .ok plugin →
    plugin.info.schema.HasStandards Failure.IsGraph

/-- What keeps a type from having a plugin is always an error of the graph. -/
theorem Registry.IsOrderly.isFair {registry : Registry} (h : registry.IsOrderly) :
    registry.resolve.IsFair Failure.IsGraph where
  plugin := h.plugin
  standards := h.standards
  unknown _ error _ := Or.inr ⟨error, rfl⟩

theorem Registry.resolve_append {registry : Registry} {key type : String} {factory : Factory}
    {plugin : Plugin} (h : Registry.resolve (registry ++ [(key, factory)]) type = .ok plugin) :
    registry.resolve type = .ok plugin ∨ factory.make = .ok (some plugin) := by
  unfold resolve at h ⊢
  rw [find?_append] at h
  cases hfind : registry.find? type with
  | some holder =>
    -- a key that is held is not asked of the new factory
    rw [hfind] at h
    exact Or.inl h
  | none =>
    rw [hfind, Option.none_or] at h
    by_cases hkey : Text.lower type = key
    · rw [if_pos hkey] at h
      dsimp only at h
      split at h
      · next made hmake => exact Or.inr (Except.ok.inj h ▸ hmake)
      · exact absurd h nofun
      · exact absurd h nofun
      · exact absurd h nofun
      · exact absurd h nofun
    · rw [if_neg hkey] at h
      exact absurd h nofun

/-- A registry stays orderly when a factory is added, if what the factory makes is orderly. A
    factory that makes nothing may always be added. -/
theorem Registry.IsOrderly.append {registry : Registry} (h : registry.IsOrderly) (key : String)
    {factory : Factory} (hplugin : ∀ plugin, factory.make = .ok (some plugin) →
      plugin.IsFair Failure.IsGraph ∧ plugin.info.schema.HasStandards Failure.IsGraph) :
    Registry.IsOrderly (registry ++ [(key, factory)]) where
  plugin type plugin found := (resolve_append found).elim (h.plugin type plugin)
    fun made => (hplugin plugin made).1
  standards type plugin found := (resolve_append found).elim (h.standards type plugin)
    fun made => (hplugin plugin made).2

/-- The registry of the built-in types is orderly. -/
theorem Node.registry_isOrderly : Node.registry.IsOrderly :=
  ⟨Node.resolve_isFair.plugin, Node.resolve_isFair.standards⟩

theorem IsFairUpTo.isGraph {α : Type} {x : Except Failure α} (h : IsFairUpTo Failure.IsGraph x)
    {failure : Failure} (hfailure : x = .error failure) : failure.IsGraph := by
  rcases h failure hfailure with huser | hgraph
  · obtain ⟨error, rfl, _⟩ := Failure.exists_of_isUser huser
    exact ⟨error, rfl⟩
  · exact hgraph

namespace Service

/-! ### Answers -/

/-- The answer to the defect of a plugin, whatever the defect is. -/
def Answer.defect : Answer :=
  .object 500 [("kind", .str ErrorKind.internal.text),
    ("message", .str "Internal error while generating code")]

/-- An answer with a program, or with an error object and the status of its kind. -/
inductive Answer.IsWorded : Answer → Prop where
  | program (program : Program) : IsWorded (.object 200 (programEntries program))
  | rejected {kind : ErrorKind} {message : String} {entries : Entries} (user : kind.isUser = true)
      (tells : TellsError entries kind.text message) : IsWorded (.object 422 entries)
  | unresolved {message : String} {entries : Entries}
      (tells : TellsError entries ErrorKind.pluginResolution.text message) :
      IsWorded (.object 502 entries)
  | defect : IsWorded .defect

/-- An error is answered as its kind says. -/
theorem isWorded_ofError (error : GraphError) : (Answer.ofError error).IsWorded := by
  have htells := error.tellsError
  unfold Answer.ofError
  by_cases huser : error.kind.isUser = true
  · have hstatus : error.status = 422 := if_pos huser
    rw [hstatus, if_neg (by decide)]
    exact .rejected huser htells
  · have hother : error.status = if error.kind = .pluginResolution then 502 else 500 :=
      if_neg huser
    by_cases hkind : error.kind = .pluginResolution
    · rw [hother, if_pos hkind, if_neg (by decide)]
      rw [hkind] at htells
      exact .unresolved htells
    · -- what the error says is left out of the answer
      rw [hother, if_neg hkind, if_pos rfl]
      exact .defect

/-- An object with a message is a rejection. -/
theorem isWorded_refused (words : String) : (Answer.object 422
    [("kind", .str ErrorKind.invalidGraph.text), ("message", .str words)]).IsWorded :=
  have huser : ErrorKind.invalidGraph.isUser = true := rfl
  .rejected huser (tellsError_cons _ _ _)

/-- All answers in words that blame the service are the same. -/
theorem Answer.IsWorded.eq_defect {answer : Answer} (h : answer.IsWorded)
    (hstatus : answer.status = 500) : answer = .defect := by
  cases h with
  | defect => rfl
  | program => exact absurd hstatus (by decide : (200 : Nat) ≠ 500)
  | rejected => exact absurd hstatus (by decide : (422 : Nat) ≠ 500)
  | unresolved => exact absurd hstatus (by decide : (502 : Nat) ≠ 500)

/-! ### Orders -/

section orders
variable [Stack] (service : Service) {request : Request}

/-- A request that is no order is rejected, unless its body cannot be read. -/
theorem answer_of_fault {fault : OrderFault} (hclosed : ¬request.IsOpen)
    (horder : Order.ofRequest request = .error fault) :
    ∃ reply, service.translate request = .ok reply ∧
      (reply.answer.IsWorded ∨ fault = .unreadable ∧ reply.answer = .unreadable) := by
  by_cases hfault : fault = .unreadable
  · subst hfault
    exact ⟨_, translate_of_unreadable service horder, Or.inr ⟨rfl, rfl⟩⟩
  · obtain ⟨words, hreply⟩ := exists_translate_of_fault service hclosed horder hfault
    exact ⟨_, hreply, Or.inl (isWorded_refused words)⟩

/-- An order is answered in words, unless it fails with something other than an error. -/
theorem answer_of_order {order : Order} (horder : Order.ofRequest request = .ok order) :
    (∃ reply, service.translate request = .ok reply ∧ reply.answer.IsWorded) ∨
      ∃ failure, service.fulfil order = .error failure ∧ ¬failure.IsGraph ∧
        service.translate request = .error failure := by
  unfold translate
  rw [horder]
  dsimp only
  cases hfulfil : service.fulfil order with
  | ok result => exact Or.inl ⟨_, rfl, .program result.2⟩
  | error failure =>
    by_cases hgraph : failure.IsGraph
    · obtain ⟨error, rfl⟩ := hgraph
      exact Or.inl ⟨_, rfl, isWorded_ofError error⟩
    · -- only errors of the graph are turned into answers, so the order fails as it is
      refine Or.inr ⟨failure, rfl, hgraph, ?_⟩
      cases failure with
      | graph error => exact absurd ⟨error, rfl⟩ hgraph
      | _ => rfl

/-- With orderly plugins an order fails with errors of the graph only. -/
theorem isGraph_of_fulfil {service : Service} {order : Order}
    (horderly : service.registry.IsOrderly)
    (horder : Order.ofRequest request = .ok order)
    (hroom : Stack.isTooSmallToTranslate order.graph = false)
    (hformatter : ∃ formatter, service.configuration.formatterFor none = .ok formatter)
    {failure : Failure} (hfailure : service.fulfil order = .error failure) : failure.IsGraph := by
  have htext := Value.isShowable_of_isJson (Order.isJson_graph horder)
  have hfair : IsFairUpTo Failure.IsGraph (service.fulfil order) :=
    isFairUpTo_fulfil horderly.isFair (.of_isShowable htext) hroom hformatter
  exact hfair.isGraph hfailure

variable (request) (hmethod : request.method = "POST")
  (hroute : Route.at? (pathOf request.address) = some .program)

include hmethod hroute

/-- A request for a program is answered in words, unless its body cannot be read or a plugin fails
    with something other than an error. -/
theorem answer_cases (hclosed : ¬request.IsOpen) :
    (service.handle request).answer.IsWorded ∨
      Order.ofRequest request = .error .unreadable ∧
        (service.handle request).answer = .unreadable ∨
      ∃ order failure, Order.ofRequest request = .ok order ∧
        service.fulfil order = .error failure ∧ ¬failure.IsGraph ∧
          (service.handle request).answer = .ofFailure failure := by
  rw [answer_program service request hmethod hroute]
  cases horder : Order.ofRequest request with
  | error fault =>
    obtain ⟨reply, hreply, hworded | ⟨rfl, hanswer⟩⟩ := answer_of_fault service hclosed horder
    · rw [hreply]
      exact Or.inl hworded
    · rw [hreply]
      exact Or.inr (Or.inl ⟨rfl, hanswer⟩)
  | ok order =>
    rcases answer_of_order service horder with
      ⟨reply, hreply, hworded⟩ | ⟨failure, hfailure, hother, htranslate⟩
    · rw [hreply]
      exact Or.inl hworded
    · rw [htranslate]
      exact Or.inr (Or.inr ⟨order, failure, rfl, hfailure, hother, rfl⟩)

/-- The status of an answer tells who is to blame: the caller for what is no order, and else whoever
    the error is about. -/
theorem status_of_blame (hclosed : ¬request.IsOpen) :
    (∀ fault, Order.ofRequest request = .error fault → fault ≠ .unreadable →
      (service.handle request).answer.status = 422) ∧
    ∀ order error, Order.ofRequest request = .ok order →
      service.fulfil order = .error (.graph error) →
        (service.handle request).answer.status = error.status := by
  rw [answer_program service request hmethod hroute]
  refine ⟨fun fault horder hfault => ?_, fun order error horder herror => ?_⟩
  · obtain ⟨words, hreply⟩ := exists_translate_of_fault service hclosed horder hfault
    rw [hreply]
    rfl
  · unfold translate
    rw [horder]
    dsimp only
    rw [herror]
    exact status_ofError error

/-- Requests for programs are answered in words wherever the service has words.

    Whatever node types are registered, a request for a program is answered with the program or with
    an error object, whose status is 422 if the caller is to blame, 502 if a type has no plugin for
    another reason, and 500 for the defect of a plugin. Two things alone are answered otherwise, a
    body that cannot be read and an order that fails with something other than an error; the second
    is answered barely, or by the plugin itself. With orderly plugins, and room for the layers of
    the graph to be turned into code, it never happens, at whatever depth of the graph they are
    used. The answers with status 500 are two constants, so nothing of a defect is told that a
    plugin does not tell itself. -/
theorem answers_in_words (hclosed : ¬request.IsOpen) :
    let answer := (service.handle request).answer
    (answer.IsWorded ∨
      Order.ofRequest request = .error .unreadable ∧ answer = .unreadable ∨
      ∃ order failure, Order.ofRequest request = .ok order ∧
        service.fulfil order = .error failure ∧ ¬failure.IsGraph ∧
          answer = .ofFailure failure) ∧
    ((∀ fault, Order.ofRequest request = .error fault → fault ≠ .unreadable →
        answer.status = 422) ∧
      ∀ order error, Order.ofRequest request = .ok order →
        service.fulfil order = .error (.graph error) → answer.status = error.status) ∧
    (service.registry.IsOrderly →
      (∃ formatter, service.configuration.formatterFor none = .ok formatter) →
        Order.ofRequest request ≠ .error .unreadable →
          (∀ order, Order.ofRequest request = .ok order →
            Stack.isTooSmallToTranslate order.graph = false) →
            answer.IsWorded) ∧
    (answer.status = 500 →
      answer = .defect ∨ answer = .failure ∨
        ∃ order content, Order.ofRequest request = .ok order ∧
          service.fulfil order = .error (.answered 500 content)) := by
  intro answer
  have hcases := answer_cases service request hmethod hroute hclosed
  refine ⟨hcases, status_of_blame service request hmethod hroute hclosed, ?_, ?_⟩
  · intro horderly hformatter hreadable hroom
    rcases hcases with hworded | ⟨hunreadable, _⟩ | ⟨order, failure, horder, hfailure, hother, _⟩
    · exact hworded
    · exact absurd hunreadable hreadable
    · exact absurd
        (isGraph_of_fulfil horderly horder (hroom order horder) hformatter hfailure) hother
  · intro hstatus
    rcases hcases with hworded | ⟨_, hanswer⟩ | ⟨order, failure, horder, hfailure, _, hanswer⟩
    · exact Or.inl (hworded.eq_defect hstatus)
    · have hunreadable : answer.status = 400 := congrArg Answer.status hanswer
      exact absurd (hstatus.symm.trans hunreadable) (by decide)
    · cases hown : Answer.own? failure with
      | none => exact Or.inr (Or.inl (hanswer.trans (Answer.ofFailure_of_escape hown)))
      | some own =>
        -- the answer is the plugin's, and so is its status
        obtain ⟨status, content, rfl⟩ := Answer.exists_of_own? hown
        have hsame : answer.status = status.val := congrArg Answer.status hanswer
        obtain rfl : status = 500 := Fin.ext (hsame.symm.trans hstatus)
        exact Or.inr (Or.inr ⟨order, content, horder, hfailure⟩)

end orders

/-! ### Defective plugins -/

/-- The error of the graph that something fails with, if it fails with one. -/
def graphError? {α : Type} : Except Failure α → Option GraphError
  | .error (.graph error) => some error
  | _ => none

theorem eq_error_of_graphError? {α : Type} {x : Except Failure α} {error : GraphError}
    (h : graphError? x = some error) : x = .error (.graph error) := by
  unfold graphError? at h
  split at h
  · rw [Option.some.inj h]
  · cases h

/-- What a node type without settings tells about itself. -/
def customInfo (typeKey : String) : NodeInfo where
  typeKey := typeKey
  name := typeKey
  category := .custom
  description := ""
  inputLines := 1
  outputLines := 1
  secondaryInputLines := 0
  schema := []
  imports := []
  dependencies := []

/-- A plugin that leaves the placeholder of its template without a value. -/
def gapPlugin : Plugin := ⟨customInfo "Gap", fun _ _ => renderSource "Gap" "\x7bfilling\x7d" []⟩

/-- A factory that fails. -/
def failingFactory : Factory := ⟨18, "Failing", .error (.raised "RuntimeError" "broken")⟩

/-- A factory that makes no plugin. -/
def emptyFactory : Factory := ⟨19, "Empty", .ok none⟩

/-- The built-in types, two factories that are of no use, and a defective plugin. -/
def defectiveRegistry : Registry :=
  Node.registry ++ [("failing", failingFactory)] ++ [("empty", emptyFactory)] ++
    [("gap", Node.factoryOf gapPlugin 20)]

/-- A service with these types. -/
def defectiveService : Service := ⟨defectiveRegistry, .standard⟩

/-- A pipeline with the defective plugin inside. -/
def defectiveLayer : Value :=
  .ofEntries [("type", .str "Pipeline"), ("child", .list [.ofEntries [("type", .str "Gap")]])]

/-- A request for the program of the pipeline. -/
def nestedRequest : Request := graphRequest (.list [defectiveLayer])

theorem defectiveRegistry_isOrderly : defectiveRegistry.IsOrderly := by
  have hgap : ∀ given inside, gapPlugin.emit given inside =
      .error (.graph (.template "Gap" ["filling"] none)) := fun _ _ => rfl
  have hfailing : Registry.IsOrderly (Node.registry ++ [("failing", failingFactory)]) :=
    Node.registry_isOrderly.append "failing" fun _ made => absurd made nofun
  have hempty : Registry.IsOrderly (Node.registry ++ [("failing", failingFactory)] ++
      [("empty", emptyFactory)]) :=
    hfailing.append "empty" fun _ made => absurd made nofun
  refine hempty.append "gap" fun plugin made => ?_
  obtain rfl : gapPlugin = plugin := Option.some.inj (Except.ok.inj made)
  refine ⟨fun given inside _ _ => ?_, fun entry hentry => absurd hentry List.not_mem_nil⟩
  rw [hgap]
  exact FailsWith.error (Or.inr ⟨_, rfl⟩)

theorem ofRequest_nestedRequest :
    Order.ofRequest nestedRequest = .ok ⟨.list [defectiveLayer], some false⟩ := by
  have hinner : Json.IsVerbal (.ofEntries [("type", .str "Gap")]) :=
    .object (by simp) (List.forall_mem_singleton.2 (.str "Gap"))
  have houter : Json.IsVerbal defectiveLayer :=
    .object (by simp) (List.forall_mem_cons.2 ⟨.str "Pipeline",
      List.forall_mem_singleton.2 (.list (List.forall_mem_singleton.2 hinner))⟩)
  exact ofRequest_graphRequest (List.forall_mem_singleton.2 houter)

/-- The defect of a plugin inside another is answered in words that tell nothing of it. -/
theorem answers_in_words_nested :
    (defectiveService.handle nestedRequest).answer = .defect := by
  have hreadable : Order.ofRequest nestedRequest ≠ .error .unreadable := by
    rw [ofRequest_nestedRequest]
    exact nofun
  have herror : graphError? (defectiveService.fulfil ⟨.list [defectiveLayer], some false⟩) =
      some (.template "Gap" ["filling"] none) := by decide +kernel
  obtain ⟨_, ⟨_, hstatus⟩, hworded, _⟩ := answers_in_words defectiveService nestedRequest rfl
    (at?_graphRequest _) (not_isOpen_of_order ofRequest_nestedRequest)
  have hanswer := hworded defectiveRegistry_isOrderly ⟨none, Configuration.formatterFor_standard⟩
    hreadable fun _ _ => rfl
  -- the status says which of the answers in words it is
  exact hanswer.eq_defect (hstatus _ _ ofRequest_nestedRequest (eq_error_of_graphError? herror))

/-- A plugin that renders without having a template. -/
def barePlugin : CustomNode := ⟨"TestPlugin", customInfo "Bare", none, [], none⟩

/-- A service that knows no other type. -/
def bareService : Service := ⟨[("bare", ⟨0, "Bare", .ok (some barePlugin.plugin)⟩)], .standard⟩

/-- A layer of that type. -/
def bareLayer : Value := .ofEntries [("type", .str "Bare")]

/-- A request for the program of the layer. -/
def bareRequest : Request := graphRequest (.list [bareLayer])

/-- A missing template is a defect that is not answered in words. -/
theorem answer_bareRequest :
    (bareService.handle bareRequest).answer = .failure ∧
      ¬(bareService.handle bareRequest).answer.IsWorded := by
  have hlayer : Json.IsVerbal bareLayer :=
    .object (by simp) (List.forall_mem_singleton.2 (.str "Bare"))
  have horder : Order.ofRequest bareRequest = .ok ⟨.list [bareLayer], some false⟩ :=
    ofRequest_graphRequest (List.forall_mem_singleton.2 hlayer)
  have hescapes : (match bareService.fulfil ⟨.list [bareLayer], some false⟩ with
      | .error (.noTemplate _) => true
      | _ => false) = true := by decide +kernel
  have hanswer : (bareService.handle bareRequest).answer = .failure := by
    rw [answer_program bareService bareRequest rfl (at?_graphRequest _)]
    unfold translate
    rw [horder]
    dsimp only
    split at hescapes
    · next className hfulfil =>
      rw [hfulfil]
      rfl
    · cases hescapes
  -- the only answer in words with this status is an object
  refine ⟨hanswer, fun hworded => ?_⟩
  rw [hanswer] at hworded
  cases hworded.eq_defect rfl

end Service

end LayerGraph
