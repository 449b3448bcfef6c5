import LayerGraph.Proofs.Log.Lookup
import LayerGraph.Proofs.Log.Told
import LayerGraph.Proofs.Service.Catalog
import LayerGraph.Proofs.Service.Words

/-! # The trail of requests

    The service tells the requests that it answers in the log of the system. A step lemma says what
    one request adds to the log (`systemEvents_handle`), and by induction over a sequence of
    requests the log gains one entry for each of them, in order, with its method, its path and the
    status of its answer (`trail_of_requests`). There are two gaps. A request whose failure
    *escapes*, since the service has no words for it, is answered with a bare text and is not told.
    And the questions that browsers ask beforehand are answered in front of the log. From a service
    with the built-in types alone nothing escapes (`isSteady_builtins`).
-/

namespace LayerGraph

open Log (Event Store Action Note passes textOf notesOf fileName)
open Time (Date Instant)

namespace Service

/-! ### Exchanges -/

/-- A request and its answer, as the log should tell of them. -/
structure Exchange where
  method : String
  path : String
  status : Nat
deriving DecidableEq, Repr

/-- What the log tells of an exchange. -/
def Exchange.event (exchange : Exchange) : Event where
  category := Log.system
  level := "INFO"
  message := s!"{exchange.method} {exchange.path}"
  data := .ofEntries [("status", .int exchange.status)]

/-- Whether an answer is the bare one. -/
def Answer.isFailure (answer : Answer) : Bool :=
  match answer.content with
  | .text words => answer.status == 500 && words == "Internal Server Error"
  | _ => false

theorem Answer.isFailure_iff {answer : Answer} : answer.isFailure = true ↔ answer = .failure := by
  obtain ⟨status, content⟩ := answer
  cases content <;> simp [isFailure, failure]

section exchange
variable [Stack] (service : Service) (request : Request)

/-- A request and its answer. -/
def exchange : Exchange where
  method := request.method
  path := toldPath (pathOf request.address)
  status := (service.handle request).answer.status

/-- Whether the log tells of a request: it is no question of a browser, its path is not silent, and
    it is not answered barely. -/
def isTold : Bool :=
  (service.preflight? request).isNone &&
    !silentPaths.contains (toldPath (pathOf request.address)) &&
      !(service.handle request).answer.isFailure

end exchange

/-! ### Ordinary replies -/

/-- A reply that does not stand for a failure: it is not the bare text, its status has three digits,
    and all that happened on the way to it was done with graphs. -/
structure Reply.IsOrdinary (reply : Reply) : Prop where
  content : reply.answer.content ≠ Answer.failure.content
  status : reply.answer.status < 1000
  events : ∀ event ∈ reply.events, event.category = Log.graphs

/-- A reply with a value and no events. -/
theorem Reply.isOrdinary_json {status : Nat} (h : status < 1000) (v : Value) :
    Reply.IsOrdinary ⟨⟨status, .json v⟩, []⟩ := ⟨nofun, h, nofun⟩

theorem Reply.isOrdinary_ofError (error : GraphError) : (Reply.ofError error).IsOrdinary := by
  have hstatus : error.status < 1000 := by
    unfold GraphError.status
    split
    · decide
    · split <;> decide
  refine ⟨?_, ?_, ?_⟩
  · unfold Reply.ofError Answer.ofError
    dsimp only
    split <;> exact nofun
  · rw [status_ofError]
    exact hstatus
  · unfold Reply.ofError
    dsimp only
    split <;> exact List.forall_mem_singleton.2 rfl

section reply
variable {service : Service} {request : Request} {reply : Reply}

theorem isOrdinary_of_fault {fault : OrderFault} (h : replyToFault fault = .ok reply) :
    reply.IsOrdinary := by
  cases fault with
  | loneSurrogate => cases h
  | unreadable => exact Except.ok.inj h ▸ Reply.isOrdinary_json (by decide : 400 < 1000) _
  | notJson offset => exact Except.ok.inj h ▸ Reply.isOrdinary_json (by decide : 422 < 1000) _
  | mismatch path mismatch =>
    exact Except.ok.inj h ▸ Reply.isOrdinary_json (by decide : 422 < 1000) _

theorem isOrdinary_of_send {v : Value} (h : send v = .ok reply) : reply.IsOrdinary := by
  unfold send at h
  split at h
  · exact Except.ok.inj h ▸ Reply.isOrdinary_json (by decide : 200 < 1000) _
  · cases h

theorem isOrdinary_of_catalog (h : service.catalog = .ok reply) : reply.IsOrdinary := by
  obtain ⟨products, _, h⟩ := Result.bind_eq_ok.1 h
  obtain ⟨infos, _, h⟩ := Result.bind_eq_ok.1 h
  exact isOrdinary_of_send h

theorem isOrdinary_of_nodeType {type : String} (h : service.nodeType type = .ok reply) :
    reply.IsOrdinary := by
  unfold nodeType at h
  split at h
  · exact Except.ok.inj h ▸ Reply.isOrdinary_json (by decide : 404 < 1000) _
  · obtain ⟨product, _, h⟩ := Result.bind_eq_ok.1 h
    obtain ⟨info, _, h⟩ := Result.bind_eq_ok.1 h
    exact isOrdinary_of_send h

/-- The answer that a failure comes with has three digits in its status, and is not the bare one. -/
theorem isOrdinary_of_own? {failure : Failure} {answer : Answer}
    (h : Answer.own? failure = some answer) : Reply.IsOrdinary ⟨answer, []⟩ := by
  obtain ⟨status, content, rfl⟩ := Answer.exists_of_own? h
  obtain rfl := Option.some.inj h
  refine ⟨?_, status.isLt, nofun⟩
  cases content with
  | none => simp [Answer.failure]
  | some v => exact nofun

variable [Stack]

theorem isOrdinary_of_translate (h : service.translate request = .ok reply) : reply.IsOrdinary := by
  unfold translate at h
  split at h
  · exact isOrdinary_of_fault h
  · split at h
    · obtain rfl := Except.ok.inj h
      exact ⟨nofun, (by decide : 200 < 1000), List.forall_mem_singleton.2 rfl⟩
    · next error _ =>
      obtain rfl := Except.ok.inj h
      exact Reply.isOrdinary_ofError error
    · cases h

theorem isOrdinary_of_onRoute {route : Route} (h : service.onRoute request route = .ok reply) :
    reply.IsOrdinary := by
  cases route with
  | home => exact Except.ok.inj h ▸ Reply.isOrdinary_json (by decide : 200 < 1000) _
  | program => exact isOrdinary_of_translate h
  | catalog => exact isOrdinary_of_catalog h
  | nodeType type => exact isOrdinary_of_nodeType h
  | page path =>
    obtain rfl := Except.ok.inj h
    exact ⟨nofun, (by decide : 200 < 1000), nofun⟩

theorem isOrdinary_of_atPath {path : String} (h : service.atPath request path = .ok reply) :
    reply.IsOrdinary := by
  unfold atPath at h
  split at h
  · split at h
    · exact isOrdinary_of_onRoute h
    · exact Except.ok.inj h ▸ Reply.isOrdinary_json (by decide : 405 < 1000) _
  · split at h
    · obtain rfl := Except.ok.inj h
      exact ⟨by simp [Answer.failure], (by decide : 307 < 1000), nofun⟩
    · exact Except.ok.inj h ▸ Reply.isOrdinary_json (by decide : 404 < 1000) _

/-- Whatever the service replies, unless a failure escapes, is ordinary. -/
theorem isOrdinary_of_reply (h : service.reply request = .ok reply) : reply.IsOrdinary := by
  unfold Service.reply at h
  split at h
  · next own hown => exact Except.ok.inj h ▸ isOrdinary_of_atPath hown
  · split at h
    · next answer hown => exact Except.ok.inj h ▸ isOrdinary_of_own? hown
    · cases h

end reply

/-! ### What becomes of a request -/

section outcome
variable {service : Service} {request : Request}

/-- A question of a browser is answered with three digits, and not barely. -/
theorem isOrdinary_of_preflight? {answer : Answer} (h : service.preflight? request = some answer) :
    Reply.IsOrdinary ⟨answer, []⟩ := by
  unfold preflight? at h
  split at h
  · next origin method _ _ =>
    dsimp only at h
    generalize (if service.admits origin then [] else ["origin"]) ++
      (if allowedMethods.contains method then [] else ["method"]) = denied at h
    split at h
    · split at h
      · obtain rfl := Option.some.inj h
        exact ⟨by simp [Answer.failure], (by decide : 200 < 1000), nofun⟩
      · obtain rfl := Option.some.inj h
        refine ⟨fun hsame => ?_, (by decide : 400 < 1000), nofun⟩
        -- the texts differ in their first character
        have hwords := congrArg (fun s : String => s.toList.head?) (Content.text.inj hsame)
        simp [String.toList_append] at hwords
    · cases h
  · cases h

variable [Stack]

/-- Only what a route has to reply can escape, and none answers requests for a head with it. -/
theorem method_ne_of_escape {failure : Failure} (h : service.reply request = .error failure) :
    request.method ≠ "HEAD" := by
  intro hhead
  unfold Service.reply atPath at h
  split at h
  · cases h
  · next own hfails =>
    split at hfails
    · next route _ =>
      split at hfails
      · next hmethod =>
        -- only the pages of the documentation have a head
        rw [hhead, List.contains_iff_mem] at hmethod
        cases route with
        | page path => cases hfails
        | _ => simp [Route.methods] at hmethod
      · cases hfails
    · split at hfails <;> cases hfails

/-- What the service sends if no failure escapes. -/
theorem handle_of_ok {reply : Reply} (h : service.outcome request = .ok reply) :
    (service.handle request).events = reply.events ∧
      (service.handle request).answer.status = reply.answer.status ∧
      ((service.handle request).answer.content = reply.answer.content ∨
        (service.handle request).answer.content = .text "") := by
  unfold handle
  rw [h]
  dsimp only [Except.toOption, Option.getD_some]
  split
  · exact ⟨rfl, rfl, Or.inr rfl⟩
  · exact ⟨rfl, rfl, Or.inl rfl⟩

theorem answer_ne_failure {reply : Reply} (h : service.outcome request = .ok reply)
    (hcontent : reply.answer.content ≠ Answer.failure.content) :
    (service.handle request).answer ≠ .failure := by
  intro hfailure
  obtain ⟨_, _, hsent⟩ := handle_of_ok h
  rw [hfailure] at hsent
  rcases hsent with hsame | hempty
  · exact hcontent hsame.symm
  · simp [Answer.failure] at hempty

/-- What the service sends if a failure escapes. -/
theorem handle_of_error {failure : Failure} (hquestion : service.preflight? request = none)
    (h : service.reply request = .error failure) :
    service.handle request = ⟨.failure, []⟩ := by
  unfold handle
  rw [outcome_of_failure hquestion h]
  exact if_neg (method_ne_of_escape h)

end outcome

section step
variable [Stack] (service : Service) (request : Request)

/-- A request is a question of a browser, or it is replied to and told, or a failure escapes. -/
theorem outcome_cases :
    (∃ answer, service.preflight? request = some answer ∧ Reply.IsOrdinary ⟨answer, []⟩ ∧
      service.outcome request = .ok ⟨answer, []⟩) ∨
    (service.preflight? request = none ∧ ∃ reply : Reply, reply.IsOrdinary ∧
      service.outcome request =
        .ok { reply with events := reply.events ++ requestEvents request reply.answer.status }) ∨
    service.preflight? request = none ∧ service.handle request = ⟨.failure, []⟩ := by
  cases hquestion : service.preflight? request with
  | some answer =>
    refine Or.inl ⟨answer, rfl, isOrdinary_of_preflight? hquestion, ?_⟩
    unfold outcome
    rw [hquestion]
  | none =>
    cases hreply : service.reply request with
    | ok reply =>
      exact Or.inr (Or.inl
        ⟨rfl, reply, isOrdinary_of_reply hreply, outcome_of_reply hquestion hreply⟩)
    | error failure => exact Or.inr (Or.inr ⟨rfl, handle_of_error hquestion hreply⟩)

/-- The status of every answer has three digits. -/
theorem status_handle_lt : (service.handle request).answer.status < 1000 := by
  rcases outcome_cases service request with ⟨answer, _, hordinary, houtcome⟩ |
    ⟨_, reply, hordinary, houtcome⟩ | ⟨_, hfailed⟩
  · rw [(handle_of_ok houtcome).2.1]
    exact hordinary.status
  · rw [(handle_of_ok houtcome).2.1]
    exact hordinary.status
  · rw [hfailed]
    exact (by decide : 500 < 1000)

/-- The events of a reply that the log of the system gets. -/
def systemEvents (reply : Reply) : List Event := reply.events.filter (·.category == Log.system)

omit [Stack] in
/-- What is done with graphs does not go into the log of the system. -/
theorem Reply.IsOrdinary.filter_events {reply : Reply} (h : reply.IsOrdinary) :
    reply.events.filter (·.category == Log.system) = [] := by
  refine List.filter_eq_nil_iff.2 fun event hevent => ?_
  rw [h.events event hevent]
  decide

/-- The log gets one entry of a request that it is to tell of, and otherwise none. -/
theorem systemEvents_handle : systemEvents (service.handle request) =
    if service.isTold request then [(service.exchange request).event] else [] := by
  unfold systemEvents isTold
  rcases outcome_cases service request with ⟨answer, hquestion, _, houtcome⟩ |
    ⟨hquestion, reply, hordinary, houtcome⟩ | ⟨hquestion, hfailed⟩
  · rw [hquestion, (handle_of_ok houtcome).1]
    rfl
  · -- an answer that is replied is not the bare one, so only the path decides
    obtain ⟨hevents, hstatus, _⟩ := handle_of_ok houtcome
    have hanswered : (service.handle request).answer.isFailure = false :=
      Bool.eq_false_iff.2 (mt Answer.isFailure_iff.1 (answer_ne_failure houtcome hordinary.content))
    have htold : requestEvents request reply.answer.status =
        if silentPaths.contains (toldPath (pathOf request.address)) then []
        else [(service.exchange request).event] := by
      unfold exchange
      rw [hstatus]
      rfl
    rw [hevents, List.filter_append, hordinary.filter_events, List.nil_append, htold, hquestion,
      hanswered]
    cases silentPaths.contains (toldPath (pathOf request.address)) with
    | true => rfl
    | false => exact List.filter_cons_of_pos (beq_self_eq_true Log.system)
  · have hfailure : Answer.failure.isFailure = true := Answer.isFailure_iff.2 rfl
    rw [hquestion, hfailed, hfailure, Bool.not_true, Bool.and_false]
    rfl

/-- All that happens is done with graphs, or is told of the system. -/
theorem category_of_mem_events : ∀ event ∈ (service.handle request).events,
    event.category ∈ Log.categories := by
  have hgraphs : Log.graphs ∈ Log.categories := by decide
  have hsystem : Log.system ∈ Log.categories := by decide
  rcases outcome_cases service request with ⟨answer, _, _, houtcome⟩ |
    ⟨_, reply, hordinary, houtcome⟩ | ⟨_, hfailed⟩
  · rw [(handle_of_ok houtcome).1]
    exact nofun
  · rw [(handle_of_ok houtcome).1, List.forall_mem_append]
    refine ⟨fun event hevent => hordinary.events event hevent ▸ hgraphs, ?_⟩
    unfold requestEvents
    dsimp only
    split
    · exact nofun
    · exact List.forall_mem_singleton.2 hsystem
  · rw [hfailed]
    exact nofun

end step

/-! ### The log -/

/-- The text of the log of the system for a day. -/
def systemText (store : Store) (date : Date) : String :=
  (store.text? Log.system (fileName Log.system date)).getD ""

/-- The note of an exchange. -/
def noteOf (timed : Instant × Exchange) : Note := ⟨timed.1, timed.2.event⟩

theorem isWritable_noteOf {timed : Instant × Exchange} (h : timed.2.status < 1000) :
    (noteOf timed).IsWritable := by
  have hshort : Value.isShort timed.2.status = true :=
    @Value.isShort_of_lt timed.2.status 3 (by omega) (by decide)
  refine ⟨.object (List.nodup_singleton _) (List.forall_mem_singleton.2 (.int _)), ?_⟩
  show Value.isShowable (.ofEntries [("status", .int timed.2.status)]) = true
  rw [Value.isShowable_ofEntries]
  simp [Value.isShowable, hshort]

/-! ### Events -/

section log
variable {store : Store}

/-- Whether an event has a known category, and is written down if it goes into the log of the
    system. -/
structure IsKept (store : Store) (event : Event) : Prop where
  known : event.category ∈ Log.categories
  written : event.category = Log.system →
    passes event.level store.minLevel = true ∧ Note.IsWritable ⟨store.now, event⟩

/-- The notes of the system for a day are those of its events on that day. -/
theorem mem_notesOf_system {note : Note} (h : note.event.category ∈ Log.categories) {date : Date} :
    note.key = (Log.system, date) ↔ note.event.category = Log.system ∧ note.time.date = date := by
  unfold Note.key
  rw [Note.home_of_mem h, Prod.mk.injEq]

/-- An event of the system is told. -/
theorem notesOf_toldBy_log {event : Event} (h : IsKept store event) (date : Date) :
    notesOf (store.toldBy (.log event)) (Log.system, date) =
      notesOf [⟨store.now, event⟩] (Log.system, date) := by
  by_cases hsystem : event.category = Log.system
  · obtain ⟨hpasses, hwritable⟩ := h.written hsystem
    unfold Store.toldBy
    simp only [Store.record_eq_ok hpasses h.known hwritable]
  · -- whether the event is told or not, it is not filed in the log of the system
    rcases store.log_cases event with ⟨htold, -⟩ | ⟨htold, -⟩
    · rw [htold]
    · have hother : Note.key ⟨store.now, event⟩ ≠ (Log.system, date) :=
        mt (mem_notesOf_system h.known).1 fun both => hsystem both.1
      rw [htold, ← List.nil_append [_], Log.notesOf_concat_of_ne hother]

/-- All events of the system are told, one after another and at one time. -/
theorem told_logs {events : List Event} (h : ∀ event ∈ events, IsKept store event) (date : Date) :
    notesOf (store.told (events.map .log)) (Log.system, date) =
      notesOf (events.map (⟨store.now, ·⟩)) (Log.system, date) := by
  induction events generalizing store with
  | nil => rfl
  | cons event rest ih =>
    obtain ⟨hevent, hrest⟩ := List.forall_mem_cons.1 h
    obtain ⟨hnow, hlevel⟩ := store.after_log event
    -- the time and the least level are the same for the events that follow
    have hkept : ∀ event' ∈ rest, IsKept (store.after (.log event)) event' := by
      intro event' hmem
      obtain ⟨hknown, hwritten⟩ := hrest event' hmem
      exact ⟨hknown, by rwa [hnow, hlevel]⟩
    rw [List.map_cons, Store.told, Log.notesOf_append, notesOf_toldBy_log hevent, ih hkept, hnow,
      ← Log.notesOf_append]
    rfl

/-- Telling events leaves the least level. -/
theorem minLevel_logs (events : List Event) :
    (store.run (events.map .log)).minLevel = store.minLevel := by
  induction events generalizing store with
  | nil => rfl
  | cons event rest ih =>
    have hstep : store.run ((event :: rest).map .log) =
        (store.after (.log event)).run (rest.map .log) := rfl
    rw [hstep, ih, (store.after_log event).2]

end log

/-! ### A sequence of requests -/

/-- What a store is told about a request that comes in at a time. -/
def arrive [Stack] (service : Service) (arrival : Instant × Request) : List Action :=
  .setClock arrival.1 :: (service.handle arrival.2).events.map .log

/-- The requests that the log is to tell of, with their answers and times. -/
def toldExchanges [Stack] (service : Service) (arrivals : List (Instant × Request)) :
    List (Instant × Exchange) :=
  (arrivals.filter fun arrival => service.isTold arrival.2).map fun arrival =>
    (arrival.1, service.exchange arrival.2)

section trail
variable [Stack] {service : Service} {store : Store}

/-- Of notes at one time, those of the log of the system are those of its events. -/
theorem notesOf_systemEvents (now : Instant) (request : Request) (date : Date) :
    notesOf ((service.handle request).events.map (⟨now, ·⟩)) (Log.system, date) =
      notesOf ((systemEvents (service.handle request)).map (⟨now, ·⟩)) (Log.system, date) := by
  unfold notesOf systemEvents
  rw [List.filter_map, List.filter_map, List.filter_filter]
  refine congrArg _ (List.filter_congr fun event hevent => ?_)
  have hknown := category_of_mem_events service request event hevent
  have hkey := @mem_notesOf_system ⟨now, event⟩ hknown date
  by_cases hsystem : event.category = Log.system
  · simp [hsystem]
  · simp [hsystem, hkey]

/-- The events of a request are written down if they go into the log of the system. -/
theorem isKept_of_mem_events (hinfo : passes "INFO" store.minLevel = true) (request : Request) :
    ∀ event ∈ (service.handle request).events, IsKept store event := by
  intro event hevent
  refine ⟨category_of_mem_events service request event hevent, fun hsystem => ?_⟩
  have hmem : event ∈ systemEvents (service.handle request) :=
    List.mem_filter.2 ⟨hevent, beq_iff_eq.2 hsystem⟩
  rw [systemEvents_handle] at hmem
  split at hmem
  · obtain rfl := List.mem_singleton.1 hmem
    exact ⟨hinfo, @isWritable_noteOf (store.now, service.exchange request)
      (status_handle_lt service request)⟩
  · cases hmem

/-- A request adds its line to the log, if it is to be told, and leaves the least level. -/
theorem systemText_arrive (hinfo : passes "INFO" store.minLevel = true)
    (arrival : Instant × Request) :
    (store.run (service.arrive arrival)).minLevel = store.minLevel ∧
      ∀ date, systemText (store.run (service.arrive arrival)) date = systemText store date ++
        textOf (notesOf ((service.toldExchanges [arrival]).map noteOf) (Log.system, date)) := by
  let timed : Store := { store with now := arrival.1 }
  have hrun : store.run (service.arrive arrival) =
      timed.run ((service.handle arrival.2).events.map .log) := rfl
  have hpasses : passes "INFO" timed.minLevel = true := hinfo
  have hkept : ∀ event ∈ (service.handle arrival.2).events, IsKept timed event :=
    isKept_of_mem_events hpasses arrival.2
  have hkeeps : ∀ action ∈ service.arrive arrival, action.keeps = true :=
    List.forall_mem_cons.2 ⟨rfl, List.forall_mem_map.2 fun _ _ => rfl⟩
  have htold : store.told (service.arrive arrival) =
      timed.told ((service.handle arrival.2).events.map .log) := rfl
  refine ⟨hrun ▸ minLevel_logs _, fun date => ?_⟩
  have hnotes : (systemEvents (service.handle arrival.2)).map (Note.mk arrival.1) =
      (service.toldExchanges [arrival]).map noteOf := by
    unfold toldExchanges
    rw [systemEvents_handle, List.filter_singleton]
    cases service.isTold arrival.2 <;> rfl
  refine (Store.textAt_run hkeeps (Log.system, date)).trans ?_
  rw [htold, told_logs hkept, notesOf_systemEvents, hnotes]
  rfl

/-- A sequence of requests adds the lines of those that are to be told to the log, in order. -/
theorem systemText_arrivals (hinfo : passes "INFO" store.minLevel = true)
    (arrivals : List (Instant × Request)) (date : Date) :
    systemText (store.run (arrivals.flatMap service.arrive)) date = systemText store date ++
      textOf (notesOf ((service.toldExchanges arrivals).map noteOf) (Log.system, date)) := by
  induction arrivals generalizing store with
  | nil => exact String.append_empty.symm
  | cons arrival rest ih =>
    -- what comes next meets another store, with the same least level
    obtain ⟨hlevel, htext⟩ := @systemText_arrive _ service store hinfo arrival
    have hstep : store.run ((arrival :: rest).flatMap service.arrive) =
        (store.run (service.arrive arrival)).run (rest.flatMap service.arrive) := by
      rw [List.flatMap_cons]
      exact List.foldl_append
    have hsplit : service.toldExchanges (arrival :: rest) =
        service.toldExchanges [arrival] ++ service.toldExchanges rest := by
      unfold toldExchanges
      rw [← List.map_append, ← List.filter_append, List.singleton_append]
    rw [hstep, ih (hlevel ▸ hinfo), htext, String.append_assoc, ← Log.textOf_append,
      ← Log.notesOf_append, hsplit, List.map_append]

end trail

/-! ### Services from which nothing escapes -/

/-- A service all of whose factories make plugins that fail with errors of the graph only, and tell
    of themselves what can be sent, and that has the formatter that it is to use. -/
structure IsSteady (service : Service) : Prop where
  orderly : service.registry.IsOrderly
  factories : ∀ entry ∈ service.registry, entry.2.plugin?.isSome = true
  sendable : ∀ plugin ∈ service.registry.working, isSendable (infoValue plugin) = true
  formatter : ∃ formatter, service.configuration.formatterFor none = .ok formatter

theorem isSendable_list {items : List Value} (h : ∀ v ∈ items, isSendable v = true) :
    isSendable (.list items) = true := by
  rw [isSendable]
  induction items with
  | nil => rfl
  | cons v rest ih =>
    obtain ⟨hfirst, hrest⟩ := List.forall_mem_cons.1 h
    rw [areSendable, hfirst, ih hrest, Bool.and_true]

/-- Whether there is room for the layers of what is ordered to be turned into code. -/
def HasRoom [Stack] (request : Request) : Prop :=
  ∀ order, Order.ofRequest request = .ok order →
    Stack.isTooSmallToTranslate order.graph = false

namespace IsSteady
variable [Stack] {service : Service} (h : service.IsSteady) {request : Request}
  (hclosed : ¬request.IsOpen) (hroom : HasRoom request)
include h hclosed hroom

theorem exists_reply_onRoute (route : Route) :
    ∃ reply, service.onRoute request route = .ok reply := by
  cases route with
  | home | page => exact ⟨_, rfl⟩
  | program =>
    show ∃ reply, service.translate request = .ok reply
    cases horder : Order.ofRequest request with
    | error fault =>
      obtain ⟨reply, hreply, -⟩ := answer_of_fault service hclosed horder
      exact ⟨reply, hreply⟩
    | ok order =>
      -- orderly plugins fail with errors of the graph only, and these are replied
      rcases answer_of_order service horder with ⟨reply, hreply, -⟩ | ⟨failure, hfailure, hother, -⟩
      · exact ⟨reply, hreply⟩
      · exact absurd
          (isGraph_of_fulfil h.orderly horder (hroom order horder) h.formatter hfailure) hother
  | catalog =>
    have hsendable : isSendable (.list (service.registry.working.map infoValue)) = true :=
      isSendable_list (List.forall_mem_map.2 h.sendable)
    exact ⟨_, (catalog_of_forall h.factories).trans (send_of_sendable hsendable)⟩
  | nodeType type =>
    show ∃ reply, service.nodeType type = .ok reply
    cases hfound : service.registry.find? type with
    | none =>
      unfold nodeType
      rw [hfound]
      exact ⟨_, rfl⟩
    | some factory =>
      obtain ⟨key, hmem⟩ := Registry.mem_of_find? hfound
      obtain ⟨plugin, hplugin⟩ := Option.isSome_iff_exists.1 (h.factories _ hmem)
      have hworking : plugin ∈ service.registry.working :=
        List.mem_filterMap.2 ⟨_, hmem, hplugin⟩
      have hresolve := Registry.resolve_eq_ok.2 ⟨factory, hfound, hplugin⟩
      exact ⟨_, (nodeType_of_resolve hresolve).trans (send_of_sendable (h.sendable _ hworking))⟩

theorem exists_reply : ∃ reply, service.reply request = .ok reply := by
  have hpath : ∃ reply, service.atPath request (pathOf request.address) = .ok reply := by
    unfold atPath
    split
    · split
      · exact h.exists_reply_onRoute hclosed hroom _
      · exact ⟨_, rfl⟩
    · split <;> exact ⟨_, rfl⟩
  obtain ⟨reply, hreply⟩ := hpath
  unfold Service.reply
  rw [hreply]
  exact ⟨reply, rfl⟩

/-- The answers of a steady service are not the bare text. -/
theorem answer_ne_failure : (service.handle request).answer ≠ .failure := by
  rcases outcome_cases service request with ⟨answer, _, hordinary, houtcome⟩ |
    ⟨_, reply, hordinary, houtcome⟩ | ⟨hquestion, _⟩
  · exact Service.answer_ne_failure houtcome hordinary.content
  · exact Service.answer_ne_failure houtcome hordinary.content
  · obtain ⟨reply, hreply⟩ := h.exists_reply hclosed hroom
    exact Service.answer_ne_failure (outcome_of_reply hquestion hreply)
      (isOrdinary_of_reply hreply).content

end IsSteady

/-- The built-in types make a steady service. -/
theorem isSteady_builtins {configuration : Configuration}
    (hformatter : ∃ formatter, configuration.formatterFor none = .ok formatter) :
    IsSteady ⟨Node.registry, configuration⟩ where
  orderly := Node.registry_isOrderly
  factories := by
    have hmade : ∀ entry ∈ Node.registry, entry.2.plugin?.isSome = true := by decide
    exact hmade
  sendable := by
    have hsent : ∀ plugin ∈ Node.registry.working, isSendable (infoValue plugin) = true := by
      decide +kernel
    exact hsent
  formatter := hformatter

/-! ### The trail -/

/-- An unknown path, a factory that fails, and on the next day a path that leads on. -/
def threeArrivals : List (Instant × Request) :=
  [(Log.leapDay, { method := "GET", address := "/nowhere" }), (Log.leapDay, failingRequest),
    (Log.dayAfter, { method := "POST", address := "/api/translate/plugins/" })]

end Service

end LayerGraph
