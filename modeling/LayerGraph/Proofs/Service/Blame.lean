import LayerGraph.Proofs.Program.Fair
import LayerGraph.Proofs.Service.Orders
import LayerGraph.Proofs.Service.Replies

/-! # Graphs of built-in types

    A graph of built-in node types is turned into a program, or refused with an error that the graph
    itself is to blame for, whatever its document holds; an integer that is too long to be written
    is the only thing that there is no such error for. Two facts carry this: validated settings have
    a fitting value under every key, and every built-in plugin is fair. What is read from the body
    of a request has no integer of that kind, so the service answers a graph with status 200 or 422
    if it can read the body at all (`blames_graph`).
-/

namespace LayerGraph

variable {others : Failure → Prop}

namespace Service

/-! ### Faults -/

theorem status_ofError (error : GraphError) :
    (Reply.ofError error).answer.status = error.status := by
  unfold Reply.ofError Answer.ofError
  split
  · next hdefect => exact hdefect.symm
  · rfl

/-- The answer to a body that cannot be read. -/
def Answer.unreadable : Answer := .detail 400 "There was an error parsing the body"

section requests
variable [Stack]

/-- What is read from a body and is no order is rejected with status 422. -/
theorem exists_translate_of_fault (service : Service) {request : Request} {fault : OrderFault}
    (hclosed : ¬request.IsOpen) (horder : Order.ofRequest request = .error fault)
    (hread : fault ≠ .unreadable) :
    ∃ words, service.translate request = .ok ⟨.object 422
      [("kind", .str ErrorKind.invalidGraph.text), ("message", .str words)], []⟩ := by
  unfold translate
  rw [horder]
  cases fault with
  | notJson offset => exact ⟨_, rfl⟩
  | mismatch path mismatch => exact ⟨_, rfl⟩
  | unreadable => exact absurd rfl hread
  | loneSurrogate => exact absurd horder hclosed

theorem translate_of_unreadable (service : Service) {request : Request}
    (h : Order.ofRequest request = .error .unreadable) :
    service.translate request = .ok ⟨.unreadable, []⟩ := by
  unfold translate
  rw [h]
  rfl

/-! ### Replies -/

/-- Where there is room, the layers of a document are what they are anyway. -/
theorem layersWithin_of_room {document : Value}
    (hroom : Stack.isTooSmallToTranslate document = false) :
    Document.layersWithin document = (Document.layers document).mapError .graph := by
  unfold Document.layersWithin
  rw [hroom]
  rfl

/-- With fair plugins an order is fulfilled, or fails as expected. -/
theorem isFairUpTo_fulfil {service : Service} {order : Order}
    (hfair : service.registry.resolve.IsFair others) (horder : order.graph.HasText others)
    (hroom : Stack.isTooSmallToTranslate order.graph = false)
    (hformatter : ∃ formatter, service.configuration.formatterFor none = .ok formatter) :
    IsFairUpTo others (service.fulfil order) := by
  unfold fulfil
  rw [layersWithin_of_room hroom]
  refine Program.isFair_layers_bind horder fun layers hlayers => ?_
  refine (FailsWith.of_exists hformatter).bind fun formatter _ => ?_
  exact (Program.isFairUpTo_ofLayers hfair hlayers _ formatter).bind fun program _ => FailsWith.ok _

theorem isFair_fulfil {service : Service} {order : Order}
    (hfair : service.registry.resolve.IsFair fun _ => False) (horder : order.graph.isJson = true)
    (hroom : Stack.isTooSmallToTranslate order.graph = false)
    (hformatter : ∃ formatter, service.configuration.formatterFor none = .ok formatter) :
    IsFair (service.fulfil order) :=
  (isFairUpTo_fulfil hfair (.of_isShowable (Value.isShowable_of_isJson horder)) hroom
    hformatter).isFair

section status
variable {service : Service} {request : Request}
  (hfair : service.registry.resolve.IsFair fun _ => False)
  (hformatter : ∃ formatter, service.configuration.formatterFor none = .ok formatter)
  (hclosed : ¬request.IsOpen)
  (hroom : ∀ order, Order.ofRequest request = .ok order →
    Stack.isTooSmallToTranslate order.graph = false)
include hfair hformatter hclosed hroom

/-- A request for a program is answered with status 200 or 422, if its body can be read. -/
theorem exists_translate (hbody : Order.ofRequest request ≠ .error .unreadable) :
    ∃ reply, service.translate request = .ok reply ∧
      (reply.answer.status = 200 ∨ reply.answer.status = 422) := by
  cases horder : Order.ofRequest request with
  | error fault =>
    -- the body was read, so its content is at fault
    have hread : fault ≠ .unreadable := fun h => hbody (h ▸ horder)
    obtain ⟨words, hreply⟩ := exists_translate_of_fault service hclosed horder hread
    exact ⟨_, hreply, Or.inr rfl⟩
  | ok order =>
    unfold translate
    rw [horder]
    dsimp only
    have hfulfil := isFair_fulfil hfair (Order.isJson_graph horder) (hroom order horder) hformatter
    rcases hfulfil.cases with ⟨⟨layers, program⟩, hprogram⟩ | ⟨error, herror, huser⟩
    · simp only [hprogram]
      exact ⟨_, rfl, Or.inl rfl⟩
    · simp only [herror]
      exact ⟨_, rfl, Or.inr ((status_ofError error).trans (if_pos huser))⟩

/-- A request at the route of programs is answered with status 200 or 422, or with 400 if its body
    cannot be read. -/
theorem status_handle (hmethod : request.method = "POST")
    (hroute : Route.at? (pathOf request.address) = some .program) :
    let status := (service.handle request).answer.status
    Order.ofRequest request = .error .unreadable ∧ status = 400 ∨
      Order.ofRequest request ≠ .error .unreadable ∧ (status = 200 ∨ status = 422) := by
  intro status
  have hanswer := answer_program service request hmethod hroute
  by_cases hbody : Order.ofRequest request = .error .unreadable
  · refine Or.inl ⟨hbody, ?_⟩
    rw [translate_of_unreadable service hbody] at hanswer
    exact congrArg Answer.status hanswer
  · obtain ⟨reply, hreply, hstatus⟩ := exists_translate hfair hformatter hclosed hroom hbody
    rw [hreply] at hanswer
    refine Or.inr ⟨hbody, ?_⟩
    rwa [show status = reply.answer.status from congrArg Answer.status hanswer]

end status

end requests

/-! ### Built-in types -/

/-- No built-in type has two settings under one key. -/
theorem nodup_keys_of_mem_schemas : ∀ entry ∈ Node.schemas, entry.2.keys.Nodup := by
  decide

/-- What comes of a document: a result, or an error that the document is to blame for, unless one of
    its integers is too long to be written. -/
def IsBlamedOn {α : Type} (document : Value) (x : Except Failure α) : Prop :=
  (∃ a, x = .ok a) ∨ (∃ error, x = .error (.graph error) ∧ error.kind.isUser = true) ∨
    x = .error (.noText .integerTooLong) ∧ document.isShowable = false

/-- What is fair up to long integers in a document is blamed on the document. -/
theorem isBlamedOn_of_isFair {α : Type} {document : Value} {x : Except Failure α}
    (h : ∀ {others : Failure → Prop}, document.HasText others → IsFairUpTo others x) :
    IsBlamedOn document x := by
  cases x with
  | ok a => exact Or.inl ⟨a, rfl⟩
  | error failure =>
    have htext : document.HasText fun failure =>
        failure = .noText .integerTooLong ∧ document.isShowable = false :=
      fun hnot => Bool.not_eq_false _ ▸ fun hlong => hnot ⟨rfl, hlong⟩
    rcases h htext failure rfl with huser | ⟨rfl, hlong⟩
    · obtain ⟨error, rfl, huser⟩ := Failure.exists_of_isUser huser
      exact Or.inr (Or.inl ⟨error, rfl, huser⟩)
    · exact Or.inr (Or.inr ⟨rfl, hlong⟩)

/-- A graph of built-in types is turned into code, or refused with an error that it is to blame for.

    This holds of its code and of its program for every document, JSON or not, save for integers
    that are too long to be written. It rests on what validation guarantees: accepted settings have
    a value of the promised shape under every key of their schema, so that no plugin ever reads a
    setting that is absent or of another type. A request for a program has status 400 if its body
    cannot be read, and status 200 or 422 otherwise, as long as there is room for the layers of the
    graph to be turned into code. -/
theorem blames_graph [Stack] :
    (∀ (document : Value) (includeImports : Bool) (formatter : Option Fragment.Formatter),
      IsBlamedOn document (Program.generate Node.registry.resolve document formatter) ∧
        IsBlamedOn document
          (Program.build Node.registry.resolve document includeImports formatter)) ∧
    (∀ entry ∈ Node.schemas, ∀ given settings, entry.2.parseValue entry.1 given = .ok settings →
      ∀ field ∈ entry.2, ∃ v, settings.get? field.key = some v ∧ field.shape.Fits v) ∧
    (∀ (configuration : Configuration) (request : Request),
      (∃ formatter, configuration.formatterFor none = .ok formatter) →
        request.method = "POST" → Route.at? (pathOf request.address) = some .program →
          ¬request.IsOpen →
            (∀ order, Order.ofRequest request = .ok order →
              Stack.isTooSmallToTranslate order.graph = false) →
              let status := (handle ⟨Node.registry, configuration⟩ request).answer.status
              Order.ofRequest request = .error .unreadable ∧ status = 400 ∨
                Order.ofRequest request ≠ .error .unreadable ∧ (status = 200 ∨ status = 422)) := by
  refine ⟨?_, ?_, ?_⟩
  · intro document includeImports formatter
    refine ⟨isBlamedOn_of_isFair fun htext => ?_, isBlamedOn_of_isFair fun htext => ?_⟩
    · exact Program.isFairUpTo_generate Node.resolve_isFair htext formatter
    · exact Program.isFairUpTo_build Node.resolve_isFair htext includeImports formatter
  · intro entry hentry given settings hsettings field hfield
    exact (Schema.fits_of_parseValue hsettings).get? (nodup_keys_of_mem_schemas entry hentry) hfield
  · intro configuration request hformatter hmethod hroute hclosed hroom
    exact status_handle Node.resolve_isFair hformatter hclosed hroom hmethod hroute

/-- A pipeline without import lines. -/
def bareHeaded (layers : List Value) : Value :=
  .ofEntries [("type", .str "Pipeline"), ("settings", .ofEntries [("includeImports", .bool false)]),
    ("child", .list layers)]

/-- A layer of a type that needs no settings. -/
def plainLayer (type : String) : Value := .ofEntries [("type", .str type)]

/-- A graph of a pipeline with another one in front of a layer. -/
def nestedGraph : Value :=
  .list [bareHeaded [bareHeaded [plainLayer "Flatten"], plainLayer "ReLU"]]

theorem isVerbal_plainLayer (type : String) : Json.IsVerbal (plainLayer type) :=
  .object (by simp) (List.forall_mem_singleton.2 (.str type))

theorem isVerbal_bareHeaded {layers : List Value} (h : ∀ layer ∈ layers, Json.IsVerbal layer) :
    Json.IsVerbal (bareHeaded layers) := by
  have hsettings : Json.IsVerbal (.ofEntries [("includeImports", .bool false)]) :=
    .object (by simp) (List.forall_mem_singleton.2 (.bool false))
  refine .object (by simp) ?_
  exact List.forall_mem_cons.2 ⟨.str _, List.forall_mem_cons.2 ⟨hsettings,
    List.forall_mem_singleton.2 (.list h)⟩⟩

/-- A graph with layers inside layers is turned into code, and a request for its program is answered
    with status 200 or 422. -/
theorem blames_graph_nested :
    (∃ code, Program.generate Node.registry.resolve nestedGraph none = .ok code) ∧
      IsBlamedOn nestedGraph (Program.build Node.registry.resolve nestedGraph true none) ∧
      let status := (handle ⟨Node.registry, .standard⟩ (graphRequest nestedGraph)).answer.status
      status = 200 ∨ status = 422 := by
  have hcode :
      (Program.generate Node.registry.resolve nestedGraph none).toOption.isSome = true := by
    decide +kernel
  obtain ⟨code, hcode⟩ := Option.isSome_iff_exists.1 hcode
  have hinner : Json.IsVerbal (bareHeaded [plainLayer "Flatten"]) :=
    isVerbal_bareHeaded (List.forall_mem_singleton.2 (isVerbal_plainLayer _))
  have houter : Json.IsVerbal
      (bareHeaded [bareHeaded [plainLayer "Flatten"], plainLayer "ReLU"]) :=
    isVerbal_bareHeaded
      (List.forall_mem_cons.2 ⟨hinner, List.forall_mem_singleton.2 (isVerbal_plainLayer _)⟩)
  have horder : Order.ofRequest (graphRequest nestedGraph) = .ok ⟨nestedGraph, some false⟩ :=
    ofRequest_graphRequest (List.forall_mem_singleton.2 houter)
  refine ⟨⟨code, Result.eq_ok_of_toOption hcode⟩, (blames_graph.1 nestedGraph true none).2, ?_⟩
  rcases blames_graph.2.2 .standard (graphRequest nestedGraph)
      ⟨none, Configuration.formatterFor_standard⟩ rfl (at?_graphRequest nestedGraph)
      (not_isOpen_of_order horder) (fun _ _ => rfl) with
    ⟨hunreadable, _⟩ | ⟨_, hstatus⟩
  · rw [horder] at hunreadable
    cases hunreadable
  · exact hstatus

/-- A graph with a dimension that is too long to be written. -/
def longGraph : Value :=
  .list [.ofEntries [("type", .str "Softmax"),
    ("settings", .ofEntries [("dim", .int (Nat.pow 10 integerDigitLimit))])]]

/-- A graph with an integer that is too long is not turned into code, and it is not told to be to
    blame. -/
theorem generate_longGraph :
    Program.generate Node.registry.resolve longGraph none = .error (.noText .integerTooLong) ∧
      ¬((∃ code, Program.generate Node.registry.resolve longGraph none = .ok code) ∨
        ∃ error, Program.generate Node.registry.resolve longGraph none = .error (.graph error) ∧
          error.kind.isUser = true) := by
  have hlong : (match Program.generate Node.registry.resolve longGraph none with
      | .error (.noText .integerTooLong) => true
      | _ => false) = true := by decide +kernel
  have hfails : Program.generate Node.registry.resolve longGraph none =
      .error (.noText .integerTooLong) := by
    generalize Program.generate Node.registry.resolve longGraph none = result at hlong ⊢
    split at hlong
    · rfl
    · cases hlong
  refine ⟨hfails, ?_⟩
  rw [hfails]
  rintro (⟨code, h⟩ | ⟨error, h, _⟩)
  · cases h
  · cases h

end Service

end LayerGraph
