import LayerGraph.Proofs.Result
import LayerGraph.Service.Handler

/-! # Replies

    What a request is answered with. At the path of a route, and with one of its methods, the route
    decides (`answer_of_route`): what it replies is answered, and a failure is answered with what it
    comes with, or barely if it escapes.
-/

namespace LayerGraph.Service

/-- The answer to a failure: the one that it comes with, or the bare one if it escapes. -/
def Answer.ofFailure (failure : Failure) : Answer := (Answer.own? failure).getD .failure

@[simp] theorem Answer.ofFailure_answered (status : Fin 1000) (content : Option Value) :
    Answer.ofFailure (.answered status content) =
      ⟨status, (content.map .json).getD (.text "")⟩ := rfl

theorem Answer.ofFailure_of_escape {failure : Failure} (h : Answer.own? failure = none) :
    Answer.ofFailure failure = .failure := by
  unfold Answer.ofFailure
  rw [h, Option.getD_none]

/-- A failure comes with an answer only if a plugin or a factory gave it one. -/
theorem Answer.exists_of_own? {failure : Failure} {answer : Answer}
    (h : Answer.own? failure = some answer) :
    ∃ status content, failure = .answered status content := by
  cases failure with
  | answered status content => exact ⟨status, content, rfl⟩
  | _ => exact absurd h nofun

/-- The answer to what a route replies, or to its failure. -/
def Answer.ofOutcome : Except Failure Reply → Answer
  | .ok reply => reply.answer
  | .error failure => .ofFailure failure

@[simp] theorem Answer.ofOutcome_ok (reply : Reply) :
    Answer.ofOutcome (.ok reply) = reply.answer := rfl

@[simp] theorem Answer.ofOutcome_error (failure : Failure) :
    Answer.ofOutcome (.error failure) = .ofFailure failure := rfl

/-! ### Routes -/

/-- No route answers the method of the questions that browsers ask. -/
theorem ne_options_of_mem_methods {route : Route} {method : String} (h : method ∈ route.methods) :
    method ≠ "OPTIONS" := by
  rintro rfl
  cases route <;> simp [Route.methods] at h

section routes
variable {service : Service} {request : Request} {route : Route}

/-- Only a request with the method of the questions that browsers ask can be one of them. -/
theorem preflight?_of_ne (h : request.method ≠ "OPTIONS") : service.preflight? request = none := by
  unfold preflight?
  split
  · exact if_neg h
  · rfl

variable [Stack]

section outcome
variable (hquestion : service.preflight? request = none)
include hquestion

theorem outcome_of_reply {reply : Reply} (h : service.reply request = .ok reply) :
    service.outcome request =
      .ok { reply with events := reply.events ++ requestEvents request reply.answer.status } := by
  unfold outcome
  rw [hquestion, h]
  rfl

theorem outcome_of_failure {failure : Failure} (h : service.reply request = .error failure) :
    service.outcome request = .error failure := by
  unfold outcome
  rw [hquestion, h]
  rfl

end outcome

variable (hroute : Route.at? (pathOf request.address) = some route)
  (hmethod : request.method ∈ route.methods)
include hroute hmethod

theorem atPath_of_route :
    service.atPath request (pathOf request.address) = service.onRoute request route := by
  unfold atPath
  rw [hroute]
  exact if_pos (List.contains_iff_mem.2 hmethod)

theorem reply_of_route {reply : Reply} (h : service.onRoute request route = .ok reply) :
    service.reply request = .ok reply := by
  unfold Service.reply
  rw [atPath_of_route hroute hmethod, h]

section failure
variable {failure : Failure} (hfails : service.onRoute request route = .error failure)
include hfails

theorem reply_of_own {answer : Answer} (h : Answer.own? failure = some answer) :
    service.reply request = .ok ⟨answer, []⟩ := by
  unfold Service.reply
  rw [atPath_of_route hroute hmethod, hfails]
  dsimp only
  rw [h]

theorem reply_of_escape (h : Answer.own? failure = none) :
    service.reply request = .error failure := by
  unfold Service.reply
  rw [atPath_of_route hroute hmethod, hfails]
  dsimp only
  rw [h]

end failure

/-- A request to a route is answered as the route replies, and a failure with the answer that it
    comes with, or barely. -/
theorem answer_of_route (hhead : request.method ≠ "HEAD") :
    (service.handle request).answer = .ofOutcome (service.onRoute request route) := by
  have hquestion : service.preflight? request = none :=
    preflight?_of_ne (ne_options_of_mem_methods hmethod)
  unfold handle
  dsimp only
  rw [if_neg hhead]
  cases hreply : service.onRoute request route with
  | ok reply =>
    rw [outcome_of_reply hquestion (reply_of_route hroute hmethod hreply), Answer.ofOutcome_ok]
    rfl
  | error failure =>
    -- a failure with an answer of its own is replied like any other answer
    rw [Answer.ofOutcome_error]
    unfold Answer.ofFailure
    cases hown : Answer.own? failure with
    | some answer =>
      rw [outcome_of_reply hquestion (reply_of_own hroute hmethod hreply hown)]
      rfl
    | none =>
      rw [outcome_of_failure hquestion (reply_of_escape hroute hmethod hreply hown)]
      rfl

end routes

/-- A request to the route of programs is answered as its translation says. -/
theorem answer_program [Stack] (service : Service) (request : Request)
    (hmethod : request.method = "POST")
    (hroute : Route.at? (pathOf request.address) = some .program) :
    (service.handle request).answer = .ofOutcome (service.translate request) := by
  have hreply : service.onRoute request .program = service.translate request := rfl
  rw [answer_of_route hroute (by simp [Route.methods, hmethod]) (by simp [hmethod]), hreply]

end LayerGraph.Service
