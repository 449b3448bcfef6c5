import LayerGraph.Proofs.Program.Composition
import LayerGraph.Proofs.Registry.Resolution
import LayerGraph.Proofs.Service.Words

/-! # The catalog of node types

    The catalog shows what node types tell about themselves, all of them or one. It makes a plugin
    for each, and knows no answer for a factory that makes none. So a type is shown if it can be
    used in a graph, and one that is not registered is not found; but of a factory that fails
    nothing is told that it does not tell itself, where a request for a program is told the error,
    and it takes the list of all types with it (`catalog_follows_factories`).
-/

namespace LayerGraph

/-- The plugin that a factory makes, if it makes one. -/
def Factory.plugin? (factory : Factory) : Option Plugin :=
  match factory.make with
  | .ok made => made
  | .error _ => none

namespace Registry

/-- The plugins of all factories that make one, in order of registration. -/
def working (registry : Registry) : List Plugin := registry.filterMap (·.2.plugin?)

/-! ### Factories at work -/

theorem call_eq_ok {factory : Factory} {product : Option Plugin} :
    call factory = .ok product ↔ factory.make = .ok product :=
  Result.mapError_eq_ok

/-- A factory that makes no plugin fails, or makes something else. -/
theorem call_of_plugin?_eq_none {factory : Factory} (h : factory.plugin? = none) :
    (∃ failure, call factory = .error failure) ∨ call factory = .ok none := by
  unfold Factory.plugin? at h
  cases hcall : call factory with
  | error failure => exact Or.inl ⟨failure, rfl⟩
  | ok product =>
    rw [call_eq_ok.1 hcall] at h
    exact Or.inr (congrArg Except.ok h)

theorem call_of_plugin?_eq_some {factory : Factory} {plugin : Plugin}
    (h : factory.plugin? = some plugin) : call factory = .ok (some plugin) := by
  unfold Factory.plugin? at h
  refine call_eq_ok.2 ?_
  cases hmake : factory.make with
  | error fault =>
    rw [hmake] at h
    cases h
  | ok product =>
    rw [hmake] at h
    exact congrArg Except.ok h

/-- A type has a plugin exactly if it is held by a factory that makes one. -/
theorem resolve_eq_ok {registry : Registry} {type : String} {plugin : Plugin} :
    registry.resolve type = .ok plugin ↔
      ∃ factory, registry.find? type = some factory ∧ factory.plugin? = some plugin := by
  cases hfind : registry.find? type with
  | none =>
    rw [resolve_of_free hfind]
    simp
  | some factory =>
    rw [resolve_of_held hfind]
    unfold Factory.plugin?
    cases hmake : factory.make with
    | ok made => cases made <;> simp [hmake]
    | error fault => cases fault <;> simp [hmake]

/-- With factories that all make plugins the list of what they make is complete. -/
theorem products_of_forall {registry : Registry}
    (h : ∀ entry ∈ registry, entry.2.plugin?.isSome = true) :
    registry.products = .ok (registry.working.map some) := by
  unfold products working
  induction registry with
  | nil => rfl
  | cons entry rest ih =>
    obtain ⟨hfirst, hrest⟩ := List.forall_mem_cons.1 h
    obtain ⟨plugin, hplugin⟩ := Option.isSome_iff_exists.1 hfirst
    have hworking : (entry :: rest).filterMap (fun entry => entry.2.plugin?) =
        plugin :: rest.filterMap fun entry => entry.2.plugin? := List.filterMap_cons_some hplugin
    rw [hworking]
    exact Result.mapM_cons_eq_ok.2
      ⟨some plugin, _, call_of_plugin?_eq_some hplugin, ih hrest, rfl⟩

/-- Whether some factory of a registry answers for its own failure. -/
def HasOwnAnswer (registry : Registry) : Prop :=
  ∃ entry ∈ registry, ∃ className words status content,
    entry.2.make = .error (.answered className words status content)

/-- The failure of a factory that does not answer for itself escapes. -/
theorem own?_of_call {factory : Factory} {failure : Failure}
    (h : ∀ className words status content,
      factory.make ≠ .error (.answered className words status content))
    (hcall : call factory = .error failure) : Service.Answer.own? failure = none := by
  obtain ⟨fault, hmake, rfl⟩ := Result.mapError_eq_error.1 hcall
  cases fault with
  | answered className words status content => exact absurd hmake (h className words status content)
  | refused error => rfl
  | raised className words => rfl

end Registry

namespace Service

/-! ### What is told -/

/-- What a plugin tells about its node type, as an object. -/
def infoValue (plugin : Plugin) : Value := .ofEntries plugin.info.toEntries

theorem mapM_infoOf (plugins : List Plugin) :
    (plugins.map some).mapM infoOf = .ok (plugins.map infoValue) := by
  induction plugins with
  | nil => rfl
  | cons plugin rest ih => exact Result.mapM_cons_eq_ok.2 ⟨_, _, rfl, ih, rfl⟩

/-- What is no plugin tells nothing. -/
theorem mapM_infoOf_of_none {products : List (Option Plugin)} (h : none ∈ products) :
    products.mapM infoOf = .error .notPlugin := by
  cases hinfos : products.mapM infoOf with
  | ok infos =>
    obtain ⟨info, hinfo⟩ := Result.mapM_isOk_iff.1 ⟨infos, hinfos⟩ none h
    cases hinfo
  | error failure =>
    obtain ⟨_, product, _, _, _, hproduct⟩ := Result.mapM_eq_error.1 hinfos
    cases product with
    | none => exact congrArg Except.error (Except.error.inj hproduct).symm
    | some plugin => cases hproduct

theorem send_of_sendable {v : Value} (h : isSendable v = true) :
    send v = .ok ⟨⟨200, .json v⟩, []⟩ := if_pos h

theorem send_of_not {v : Value} (h : isSendable v = false) : send v = .error .notSendable := by
  unfold send
  rw [h]
  rfl

/-- A value is answered if it can be sent, and barely otherwise. -/
theorem answer_of_send (v : Value) :
    Answer.ofOutcome (send v) = if isSendable v then ⟨200, .json v⟩ else .failure := by
  by_cases hsendable : isSendable v = true
  · rw [send_of_sendable hsendable]
    exact (if_pos hsendable).symm
  · rw [send_of_not (Bool.eq_false_iff.2 hsendable)]
    exact (if_neg hsendable).symm

/-- With factories that all make plugins, what these tell is sent if it can be. -/
theorem catalog_of_forall {service : Service}
    (h : ∀ entry ∈ service.registry, entry.2.plugin?.isSome = true) :
    service.catalog = send (.list (service.registry.working.map infoValue)) := by
  unfold Service.catalog
  rw [Registry.products_of_forall h]
  simp only [bind, Except.bind, mapM_infoOf]

/-- What the plugin of a type tells is sent if it can be. -/
theorem nodeType_of_resolve {service : Service} {type : String} {plugin : Plugin}
    (h : service.registry.resolve type = .ok plugin) :
    service.nodeType type = send (infoValue plugin) := by
  obtain ⟨factory, hheld, hplugin⟩ := Registry.resolve_eq_ok.1 h
  unfold nodeType
  rw [hheld]
  dsimp only
  rw [Registry.call_of_plugin?_eq_some hplugin]
  simp only [bind, Except.bind, infoOf, infoValue]

/-- One factory that makes no plugin is enough for there to be no catalog. -/
theorem catalog_of_exists {service : Service}
    (h : ∃ entry ∈ service.registry, entry.2.plugin? = none) :
    ∃ failure, service.catalog = .error failure ∧
      (failure = .notPlugin ∨ ∃ entry ∈ service.registry,
        Registry.call entry.2 = .error failure) := by
  obtain ⟨entry, hentry, hnone⟩ := h
  cases hproducts : service.registry.products with
  | error failure =>
    -- the list fails like the first factory that does
    obtain ⟨before, failing, after, hregistry, _, hfailing⟩ := Result.mapM_eq_error.1 hproducts
    refine ⟨failure, Result.bind_eq_error.2 (Or.inl hproducts), Or.inr ⟨failing, ?_, hfailing⟩⟩
    rw [hregistry]
    exact List.mem_append_right before List.mem_cons_self
  | ok products =>
    -- no factory fails, so this one makes something that is no plugin
    have hcall : Registry.call entry.2 = .ok none := by
      obtain ⟨product, hproduct⟩ := Result.mapM_isOk_iff.1 ⟨products, hproducts⟩ entry hentry
      rcases Registry.call_of_plugin?_eq_none hnone with ⟨failure, hfailure⟩ | hcall
      · cases hproduct.symm.trans hfailure
      · exact hcall
    have hmem : none ∈ products := (Result.mem_of_mapM hproducts).2 ⟨entry, hentry, hcall⟩
    refine ⟨.notPlugin, Result.bind_eq_error.2 (Or.inr ⟨products, hproducts, ?_⟩), Or.inl rfl⟩
    exact Result.bind_eq_error.2 (Or.inl (mapM_infoOf_of_none hmem))

section stack
variable [Stack]

/-! ### Types that cannot be used -/

/-- A graph that begins with a layer whose type has no plugin is answered with the error that says
    why. -/
theorem answer_of_resolve_error {service : Service} {request : Request} {order : Order}
    {layer : Layer} {others : List Layer} {error : GraphError}
    (hformatter : ∃ formatter, service.configuration.formatterFor none = .ok formatter)
    (hmethod : request.method = "POST")
    (hroute : Route.at? (pathOf request.address) = some .program)
    (horder : Order.ofRequest request = .ok order)
    (hroom : Stack.isTooSmallToTranslate order.graph = false)
    (hlayers : Document.layers order.graph = .ok (layer :: others))
    (herror : service.registry.resolve layer.type = .error error) :
    (service.handle request).answer = .ofError error := by
  obtain ⟨formatter, hformatter⟩ := hformatter
  have hcode : (layer.part service.registry.resolve).code = .error (.graph error) := by
    unfold Part.code
    rw [Layer.part_codeUnder, herror]
    rfl
  have hcodes : Program.codeOf service.registry.resolve (layer :: others) none =
      .error (.graph error) :=
    Program.codeOf_eq_error.2 (Result.mapM_eq_error.2 ⟨[], layer, others, rfl, by simp, hcode⟩)
  have hfulfil : service.fulfil order = .error (.graph error) := by
    unfold fulfil Program.ofLayers
    rw [layersWithin_of_room hroom, hlayers, hformatter]
    refine Result.bind_eq_error.2 (Or.inr ⟨layer :: others, rfl, ?_⟩)
    refine Result.bind_eq_error.2 (Or.inr ⟨formatter, rfl, ?_⟩)
    exact Result.bind_eq_error.2 (Or.inl (Result.bind_eq_error.2 (Or.inl hcodes)))
  rw [answer_program service request hmethod hroute]
  unfold translate
  rw [horder]
  dsimp only
  rw [hfulfil]
  rfl

/-! ### The catalog -/

section shown
variable (service : Service) {request : Request} (hmethod : request.method = "GET")
include hmethod

theorem answer_catalog (hroute : Route.at? (pathOf request.address) = some .catalog) :
    (service.handle request).answer = .ofOutcome service.catalog :=
  answer_of_route hroute (hmethod ▸ List.mem_singleton.2 rfl) (by simp [hmethod])

variable {type : String} (hroute : Route.at? (pathOf request.address) = some (.nodeType type))
include hroute

theorem answer_nodeType :
    (service.handle request).answer = .ofOutcome (service.nodeType type) :=
  answer_of_route hroute (hmethod ▸ List.mem_singleton.2 rfl) (by simp [hmethod])

theorem answer_of_free (h : service.registry.find? type = none) :
    (service.handle request).answer = .detail 404 s!"Plugin not found: {type}" := by
  have hreply : service.nodeType type =
      .ok ⟨.detail 404 s!"Plugin not found: {type}", []⟩ := by
    unfold nodeType
    rw [h]
  exact (answer_nodeType service hmethod hroute).trans (congrArg Answer.ofOutcome hreply)

/-- A type with a plugin is answered with what the plugin tells, if it can be sent. -/
theorem answer_of_resolve {plugin : Plugin} (h : service.registry.resolve type = .ok plugin) :
    (service.handle request).answer =
      if isSendable (infoValue plugin) then ⟨200, .json (infoValue plugin)⟩ else .failure := by
  rw [answer_nodeType service hmethod hroute, nodeType_of_resolve h]
  exact answer_of_send (infoValue plugin)

/-- A type that is held by a factory without a plugin is answered with the factory's failure. -/
theorem answer_of_resolve_error_get {factory : Factory} {error : GraphError}
    (hheld : service.registry.find? type = some factory)
    (h : service.registry.resolve type = .error error) :
    ∃ failure, (service.handle request).answer = .ofFailure failure ∧
      (failure = .notPlugin ∨ Registry.call factory = .error failure) := by
  have hnone : factory.plugin? = none := by
    cases hplugin : factory.plugin? with
    | none => rfl
    | some plugin => cases (Registry.resolve_eq_ok.2 ⟨factory, hheld, hplugin⟩).symm.trans h
  have hreply : service.nodeType type = (do send (← infoOf (← Registry.call factory))) := by
    unfold nodeType
    rw [hheld]
  rw [answer_nodeType service hmethod hroute, hreply]
  rcases Registry.call_of_plugin?_eq_none hnone with ⟨failure, hfailure⟩ | hcall
  · rw [hfailure]
    exact ⟨failure, rfl, Or.inr rfl⟩
  · rw [hcall]
    exact ⟨.notPlugin, rfl, Or.inl rfl⟩

/-! ### Without answers of their own -/

/-- If no factory answers for its own failure, one is only ever answered barely. -/
theorem answer_eq_failure {factory : Factory} {error : GraphError}
    (hsilent : ¬service.registry.HasOwnAnswer) (hheld : service.registry.find? type = some factory)
    (h : service.registry.resolve type = .error error) :
    (service.handle request).answer = .failure := by
  obtain ⟨failure, hanswer, hfailure⟩ :=
    answer_of_resolve_error_get service hmethod hroute hheld h
  rw [hanswer]
  rcases hfailure with rfl | hcall
  · rfl
  · refine Answer.ofFailure_of_escape (Registry.own?_of_call ?_ hcall)
    obtain ⟨key, hmem⟩ := Registry.mem_of_find? hheld
    intro className words status content hmake
    exact hsilent ⟨_, hmem, className, words, status, content, hmake⟩

/-- A single type is not found exactly if nothing holds it. -/
theorem status_eq_unknown_iff (hsilent : ¬service.registry.HasOwnAnswer) :
    (service.handle request).answer.status = 404 ↔ service.registry.find? type = none := by
  refine ⟨fun hstatus => ?_, fun hfree => ?_⟩
  · by_contra hheld
    obtain ⟨factory, hfactory⟩ := Option.ne_none_iff_exists'.1 hheld
    cases hresolve : service.registry.resolve type with
    | ok plugin =>
      rw [answer_of_resolve service hmethod hroute hresolve] at hstatus
      split at hstatus
      · exact absurd hstatus (by decide : (200 : Nat) ≠ 404)
      · exact absurd hstatus (by decide : (500 : Nat) ≠ 404)
    | error error =>
      rw [answer_eq_failure service hmethod hroute hsilent hfactory hresolve] at hstatus
      exact absurd hstatus (by decide : (500 : Nat) ≠ 404)
  · rw [answer_of_free service hmethod hroute hfree]
    rfl

/-- A single type is shown exactly if a graph can use it, and what it tells can be sent. -/
theorem status_eq_shown_iff (hsilent : ¬service.registry.HasOwnAnswer) :
    (service.handle request).answer.status = 200 ↔
      ∃ plugin, service.registry.resolve type = .ok plugin ∧
        isSendable (infoValue plugin) = true := by
  cases hresolve : service.registry.resolve type with
  | ok plugin =>
    rw [answer_of_resolve service hmethod hroute hresolve]
    split
    · next hsendable => exact ⟨fun _ => ⟨plugin, rfl, hsendable⟩, fun _ => rfl⟩
    · next hother =>
      refine ⟨fun hstatus => absurd hstatus (by decide : (500 : Nat) ≠ 200), ?_⟩
      rintro ⟨_, hsame, hsendable⟩
      obtain rfl := Except.ok.inj hsame
      exact absurd hsendable hother
  | error error =>
    refine ⟨fun hstatus => ?_, fun ⟨_, hsame, _⟩ => absurd hsame nofun⟩
    cases hfind : service.registry.find? type with
    | none =>
      rw [answer_of_free service hmethod hroute hfind] at hstatus
      exact absurd hstatus (by decide : (404 : Nat) ≠ 200)
    | some factory =>
      rw [answer_eq_failure service hmethod hroute hsilent hfind hresolve] at hstatus
      exact absurd hstatus (by decide : (500 : Nat) ≠ 200)

end shown

/-! ### Catalog and resolution -/

end stack

/-- The built-in types, and one whose factory fails. -/
def failingService : Service := ⟨Node.registry ++ [("failing", failingFactory)], .standard⟩

/-- A request for the list of all types. -/
def catalogRequest : Request := { method := "GET", address := "/api/translate/plugins" }

/-- A request for the type whose factory fails. -/
def failingRequest : Request := { method := "GET", address := "/api/translate/plugins/failing" }

theorem find?_failing : failingService.registry.find? "failing" = some failingFactory := by
  have hnew : Text.lower "failing" = "failing" := by decide
  have hfree : (Node.registry.find? "failing").isNone = true := by decide
  show Registry.find? (Node.registry ++ [("failing", failingFactory)]) "failing" = _
  rw [Registry.find?_append, Option.isNone_iff_eq_none.1 hfree, hnew]
  rfl

theorem resolve_failing :
    failingService.registry.resolve "failing" =
      .error (.pluginResolution "failing" (.raised "RuntimeError" "broken")) := by
  rw [Registry.resolve_of_held find?_failing]
  rfl

/-- What the failing factory raises comes without an answer, and it is the only one to fail. -/
theorem call_of_mem_failingService {entry : String × Factory}
    (hentry : entry ∈ failingService.registry) {failure : Failure}
    (h : Registry.call entry.2 = .error failure) : failure = .raised "RuntimeError" "broken" := by
  rcases List.mem_append.1 hentry with hbuiltin | hfailing
  · have hmade : ∀ entry ∈ Node.registry, entry.2.make.toOption.isSome = true := by decide
    obtain ⟨fault, hmake, _⟩ := Result.mapError_eq_error.1 h
    have hsome := hmade entry hbuiltin
    rw [hmake] at hsome
    cases hsome
  · obtain rfl := List.mem_singleton.1 hfailing
    exact (Except.error.inj h).symm

end Service

end LayerGraph
