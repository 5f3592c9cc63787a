import FlowGate.Proofs.Server.CrossOrigin
import FlowGate.Proofs.Server.IssuedPath

/-!
# Preflights

A preflight is a request with the method OPTIONS. It is answered in two places, on the routes of
workflows in front of the handler and on those of waiting executions by the handler, and neither
looks at what the request could do. `preflight_answered_iff_understood` says no preflight changes
anything, not even one on an execution that waits for the method OPTIONS, and that exactly those
that are `Understood` get the answer to a preflight.
-/

namespace FlowGate

namespace Cors

variable {request : Request} {policy : Policy} {headers : HeaderList} {name : String}

/-- For any other request only the headers for methods and origins are set. -/
theorem valuesOf_applyHeaders_of_ne
    (hmethods : Text.lowercase allowMethodsHeader ≠ Text.lowercase name)
    (horigin : Text.lowercase allowOriginHeader ≠ Text.lowercase name) :
    (applyHeaders request { policy with isPreflight := false } headers).valuesOf name =
      headers.valuesOf name := by
  simp only [applyHeaders, Bool.false_eq_true, if_false]
  rw [HeaderList.valuesOf_set_of_ne horigin]
  split
  · rfl
  · exact HeaderList.valuesOf_set_of_ne hmethods headers _

/-- The answer to a preflight says once for how long it may be kept. -/
theorem valuesOf_maxAge (hpreflight : policy.isPreflight = true) :
    (applyHeaders request policy .empty).valuesOf maxAgeHeader = [toString preflightMaxAge] := by
  have habsent : (applyHeaders request { policy with isPreflight := false } .empty).valuesOf
      maxAgeHeader = [] := valuesOf_applyHeaders_of_ne (by decide) (by decide)
  have hkept := HeaderList.valuesOf_set_of_absent habsent (toString preflightMaxAge)
  rw [applyHeaders_of_preflight hpreflight]
  cases request.announcedHeaders.filter (· ≠ "") with
  | none => exact hkept
  | some announced => exact (HeaderList.valuesOf_set_of_ne (by decide) _ announced).trans hkept

/-- It repeats the headers that the preflight announces, unless there are none. -/
theorem valuesOf_allowHeaders (request : Request) (hpreflight : policy.isPreflight = true) :
    (applyHeaders request policy .empty).valuesOf allowHeadersHeader =
      (request.announcedHeaders.filter (· ≠ "")).toList := by
  have habsent : ((applyHeaders request { policy with isPreflight := false } .empty).set
      maxAgeHeader (toString preflightMaxAge)).valuesOf allowHeadersHeader = [] := by
    rw [HeaderList.valuesOf_set_of_ne (by decide), valuesOf_applyHeaders_of_ne (by decide)
      (by decide)]
    rfl
  rw [applyHeaders_of_preflight hpreflight]
  cases request.announcedHeaders.filter (· ≠ "") with
  | none => exact habsent
  | some announced => exact HeaderList.valuesOf_set_of_absent habsent announced

end Cors

namespace Http

/-- `response.AnswersPreflight request` says the response tells for how long it may be kept and
which headers may be sent, which are those that the request announces, and carries nothing. -/
structure Response.AnswersPreflight (response : Response) (request : Request) : Prop where
  status : response.status = 204
  body : response.body = .empty
  maxAge : response.headers.valuesOf Cors.maxAgeHeader = ["300"]
  allowHeaders : response.headers.valuesOf Cors.allowHeadersHeader =
    ((request.header? "access-control-request-headers").filter (· ≠ "")).toList

variable {request : Request} {response : Response}

/-- An empty response with the headers for a preflight answers it. -/
theorem Response.answersPreflight_withHeaders {source : Cors.Request} {policy : Cors.Policy}
    (hpreflight : policy.isPreflight = true)
    (hsource : source.announcedHeaders = request.header? "access-control-request-headers") :
    ((empty 204).withHeaders
      (Cors.applyHeaders source policy .empty)).AnswersPreflight request where
  status := rfl
  body := rfl
  maxAge := HeaderList.valuesOf_copyOnto (Cors.valuesOf_maxAge hpreflight) (by decide) rfl
  allowHeaders := by
    have hvalues := Cors.valuesOf_allowHeaders source hpreflight
    rw [hsource] at hvalues
    cases hannounced : (request.header? "access-control-request-headers").filter (· ≠ "") with
    | none =>
        rw [hannounced] at hvalues
        exact HeaderList.valuesOf_copyOnto_of_absent hvalues .empty
    | some announced =>
        rw [hannounced] at hvalues
        have hheader := (Option.filter_eq_some_iff.1 hannounced).1
        exact HeaderList.valuesOf_copyOnto hvalues (Request.isValueText_header? hheader) rfl

/-- A list of the methods of a route does not change that. -/
theorem Response.AnswersPreflight.withAllow (h : response.AnswersPreflight request)
    (methods : String) : (response.withHeader allowHeader methods).AnswersPreflight request where
  status := h.status
  body := h.body
  maxAge := (HeaderList.valuesOf_set_of_ne (by decide) response.headers methods).trans h.maxAge
  allowHeaders :=
    (HeaderList.valuesOf_set_of_ne (by decide) response.headers methods).trans h.allowHeaders

end Http

namespace Server

variable {server : Server} {arrival : Arrival} {request : Http.Request} {stores : Stores}
  {parameters : Http.Parameters} {endpoint : Endpoint}

/-- On the route of waiting executions a preflight is answered if it is understood, else refused; it
changes nothing, whatever the execution waits for. -/
theorem answerWaiting_preflight (server : Server) (arrival : Arrival) (stores : Stores)
    (parameters : Http.Parameters) (hmethod : Method.parse request.method = .ok .options) :
    ∃ response,
      (server.answerWaiting arrival request parameters).run stores = (response, stores) ∧
      ((Understood .waiting parameters request ∧ response.AnswersPreflight request) ∨
        ¬ Understood .waiting parameters request ∧
          (response.status = 400 ∨ response.status = 413)) := by
  unfold answerWaiting
  split
  · next hread =>
    refine ⟨_, rfl, .inr ⟨fun h ↦ ?_, .inl rfl⟩⟩
    obtain ⟨read, hok⟩ := h.parameters rfl
    cases hread.symm.trans hok
  next id suffix hread =>
  split
  · next hlong => exact ⟨_, rfl, .inr ⟨fun h ↦ h.body rfl hlong, .inr rfl⟩⟩
  next hbody =>
  simp only [hmethod]
  rw [run_answerCall, if_pos rfl]
  refine ⟨_, rfl, .inl ⟨⟨⟨.options, hmethod⟩, fun _ ↦ ⟨_, hread⟩, fun _ ↦ hbody⟩, ?_⟩⟩
  exact Http.Response.answersPreflight_withHeaders rfl rfl

/-- On the route of an action on a workflow every preflight is answered, and the action is not even
looked at. -/
theorem answerAction_preflight (action : WorkflowAction) (arrival : Arrival) (stores : Stores)
    (parameters : Http.Parameters) (hmethod : Method.parse request.method = .ok .options) :
    ∃ response, (answerAction action arrival request parameters).run stores = (response, stores) ∧
      response.AnswersPreflight request := by
  have hpost : request.method ≠ "POST" := ne_of_apply_ne Method.parse (by rw [hmethod]; nofun)
  have hanswers : ((Http.Response.empty 204).withHeaders (Cors.applyFallbackHeaders
      (originRequest request .options) (some advertisedMethods) .empty)).AnswersPreflight request :=
    Http.Response.answersPreflight_withHeaders rfl rfl
  refine ⟨_, ?_, hanswers.withAllow "POST"⟩
  rw [answerAction, if_neg hpost, StateT.run_bind, run_withFallbackHeaders hmethod]
  rfl

/-- Under a plain prefix a request with a known method is understood on the route of waiting
executions if the segments of its path can be decoded and its body is not too long; on a route of
workflows it always is. -/
theorem understood_iff (hplain : Http.IsPlain server.routePrefix)
    (hroute : Http.findRoute? server.routes request.target.path = some (endpoint, parameters))
    {method : Method} (hmethod : Method.parse request.method = .ok method) :
    Understood endpoint parameters request ↔
      (endpoint = .waiting →
        (∀ parameter ∈ parameters, (Text.Percent.decodeSegment? parameter.2).isSome) ∧
          ¬ request.isTooLarge) := by
  by_cases hwaiting : endpoint = .waiting
  · subst hwaiting
    obtain ⟨id, suffix, rfl, _⟩ := waitingParameters_of_findRoute? hplain hroute
    have hread := readParameters_waitingParameters_isOk id suffix
    exact ⟨fun h _ ↦ ⟨hread.1 (h.parameters rfl), h.body rfl⟩,
      fun h ↦ ⟨⟨method, hmethod⟩, fun _ ↦ hread.2 (h rfl).1, fun _ ↦ (h rfl).2⟩⟩
  · exact iff_of_true ⟨⟨method, hmethod⟩, fun h ↦ absurd h hwaiting, fun h ↦ absurd h hwaiting⟩
      fun h ↦ absurd h hwaiting

/-- A preflight changes nothing; it is answered if it is understood, else refused. -/
theorem handle_preflight (server : Server) (arrival : Arrival) (request : Http.Request)
    (stores : Stores)
    (hroute : Http.findRoute? server.routes request.target.path = some (endpoint, parameters))
    (hendpoint : endpoint ≠ .health) (hmethod : Method.parse request.method = .ok .options) :
    ∃ response, (server.handle arrival request).run stores = (response, stores) ∧
      ((Understood endpoint parameters request ∧ response.AnswersPreflight request) ∨
        ¬ Understood endpoint parameters request ∧
          (response.status = 400 ∨ response.status = 413)) := by
  have hhead : request.method ≠ "HEAD" := ne_of_apply_ne Method.parse (by rw [hmethod]; nofun)
  simp only [run_handle hroute, if_neg hhead]
  cases endpoint with
  | health => exact absurd rfl hendpoint
  | workflow action =>
      obtain ⟨response, hrun, hanswers⟩ :=
        answerAction_preflight action arrival stores parameters hmethod
      exact ⟨response, hrun, .inl ⟨⟨⟨.options, hmethod⟩, nofun, nofun⟩, hanswers⟩⟩
  | waiting => exact answerWaiting_preflight server arrival stores parameters hmethod

/-- No preflight on the route of waiting executions or of an action on a workflow changes anything.
One that is understood is answered with the status 204, the time for which the answer may be kept
and the headers that it announces, and any other one is refused. Under a plain prefix the preflights
that are understood are those on workflows and, on waiting executions, those with a path that can be
decoded and a body within the limit. -/
theorem preflight_answered_iff_understood (server : Server) (arrival : Arrival)
    (request : Http.Request) (stores : Stores) {endpoint : Endpoint} {parameters : Http.Parameters}
    (hroute : Http.findRoute? server.routes request.target.path = some (endpoint, parameters))
    (hendpoint : endpoint ≠ .health) (hmethod : Method.parse request.method = .ok .options) :
    ∃ response, (server.handle arrival request).run stores = (response, stores) ∧
      (Understood endpoint parameters request → response.AnswersPreflight request) ∧
      (¬ Understood endpoint parameters request →
        response.status = 400 ∨ response.status = 413) ∧
      (Http.IsPlain server.routePrefix →
        (Understood endpoint parameters request ↔
          (endpoint = .waiting →
            (∀ parameter ∈ parameters, (Text.Percent.decodeSegment? parameter.2).isSome) ∧
              ¬ request.isTooLarge))) := by
  have hunderstood (hplain : Http.IsPlain server.routePrefix) :=
    understood_iff hplain hroute hmethod
  obtain ⟨response, hrun, hcases⟩ :=
    handle_preflight server arrival request stores hroute hendpoint hmethod
  rcases hcases with ⟨hknown, hanswers⟩ | ⟨hnot, hrefused⟩
  · exact ⟨response, hrun, fun _ ↦ hanswers, fun h ↦ absurd hknown h, hunderstood⟩
  · exact ⟨response, hrun, fun h ↦ absurd h hnot, fun _ ↦ hrefused, hunderstood⟩

/-- A preflight on an execution that waits for a call with the method OPTIONS is answered and does
not resume it. -/
theorem preflight_does_not_resume :
    let server : Server := ⟨⟨(· ++ "!"), fun _ _ ↦ false⟩, "webhook-waiting"⟩
    let node : Node := { Node.plain "Wait" WebhookCatalog.waitNodeType with
      parameters := .singleton "httpMethod" (.string "OPTIONS") }
    let stores : Stores :=
      { Stores.empty with executions := .put .empty (Execution.waitingIn "7" node) }
    let request : Http.Request := ⟨"OPTIONS", .parse "/webhook-waiting/7",
      [("Access-Control-Request-Headers", "x-token")], [123]⟩
    WebhookCatalog.WaitsFor node .options none ∧
      ∃ response, (server.handle ⟨0, "", "", "", 0⟩ request).run stores = (response, stores) ∧
        response.AnswersPreflight request ∧
        response.headers.valuesOf Cors.allowHeadersHeader = ["x-token"] := by
  intro server node stores request
  have hroute : Http.findRoute? server.routes request.target.path =
      some (.waiting, [("execution_id", "7")]) := by decide
  obtain ⟨response, hrun, hanswered, _, hunderstood⟩ := preflight_answered_iff_understood server
    ⟨0, "", "", "", 0⟩ request stores hroute (by decide) (Method.parse_name .options)
  have hknown : Understood .waiting [("execution_id", "7")] request :=
    (hunderstood (by decide)).2 fun _ ↦ ⟨by decide, by decide⟩
  have hanswers := hanswered hknown
  have hannounced : ((request.header? "access-control-request-headers").filter (· ≠ "")).toList =
      ["x-token"] := by decide
  exact ⟨⟨rfl, by decide, rfl, by decide⟩, response, hrun, hanswers,
    hanswers.allowHeaders.trans hannounced⟩

/-- A preflight on a waiting execution, with an id that can be decoded and a body beyond the limit,
is not answered like a preflight. -/
theorem long_preflight_refused :
    let server : Server := ⟨⟨(· ++ "!"), fun _ _ ↦ false⟩, "webhook-waiting"⟩
    let request : Http.Request :=
      ⟨"OPTIONS", .parse "/webhook-waiting/1", [], List.replicate 2097153 0x61⟩
    Http.findRoute? server.routes request.target.path = some (.waiting, [("execution_id", "1")]) ∧
      Text.Percent.decodeSegment? "1" = some "1" ∧
      ¬ ((server.handle ⟨0, "", "", "", 0⟩ request).run .empty).1.AnswersPreflight request := by
  intro server request
  have hroute : Http.findRoute? server.routes "/webhook-waiting/1" =
      some (.waiting, [("execution_id", "1")]) := by decide
  have hlong : Http.Request.bodyLimit < (List.replicate 2097153 (0x61 : UInt8)).length := by
    rw [List.length_replicate]
    decide
  refine ⟨hroute, by decide, fun h ↦ ?_⟩
  obtain ⟨response, hrun, ⟨hknown, _⟩ | ⟨_, hrefused⟩⟩ := handle_preflight server
    ⟨0, "", "", "", 0⟩ request .empty hroute (by decide) (Method.parse_name .options)
  · exact hknown.body rfl (decide_eq_true hlong)
  · have hstatus := h.status
    rw [hrun] at hstatus
    rcases hrefused with hrefused | hrefused <;> cases hrefused.symm.trans hstatus

end Server

end FlowGate
