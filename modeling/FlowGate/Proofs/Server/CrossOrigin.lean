import FlowGate.Proofs.Cors.GrantedOrigin
import FlowGate.Proofs.Server.Answers

/-!
# The origin that an answer grants access to

The header for an origin is added on the way out, once the server knows the method of a request and,
on the route of waiting executions, its parameters and its body: the request is `Understood`. Behind
this point every exit of every route has the header once. `origin_granted_iff_understood` says so
for each request on these routes, and that an answer given before this point does not have the
header.
-/

namespace FlowGate

/-- The origins that a response grants access to. -/
def Http.Response.grantedOrigins (response : Http.Response) : List String :=
  response.headers.valuesOf Cors.allowOriginHeader

/-- `request.NamesNoOrigin` says no header line is about the origin. -/
def Http.Request.NamesNoOrigin (request : Http.Request) : Prop :=
  ∀ line ∈ request.headers, Text.lowercase line.1 ≠ "origin"

/-- `response.GrantsOriginTo request` says the response grants access to one origin, and to any
origin if the request names none. -/
def Http.Response.GrantsOriginTo (response : Http.Response) (request : Http.Request) : Prop :=
  ∃ origin, response.grantedOrigins = [origin] ∧ (request.NamesNoOrigin → origin = Cors.anyOrigin)

namespace Http

variable {request : Request} {response : Response}

theorem Request.header?_origin (h : request.NamesNoOrigin) : request.header? "origin" = none := by
  have hfind : (request.headers.find? fun line ↦
      Text.lowercase line.1 = Text.lowercase "origin") = none := by
    rw [List.find?_eq_none]
    intro line hline
    have hname : Text.lowercase "origin" = "origin" := by decide
    rw [hname, decide_eq_true_eq]
    exact h line hline
  rw [Request.header?, hfind]
  rfl

/-- The value of a header line can be sent back. -/
theorem Request.isValueText_header? {name value : String} (h : value ∈ request.header? name) :
    HeaderList.isValueText value = true := by
  rw [Request.header?, Option.mem_def, Option.filter_eq_some_iff] at h
  exact HeaderList.isValueText_of_isReadable h.2

namespace Response

theorem grantedOrigins_json (status : UInt16) (content : Json) :
    (json status content).grantedOrigins = [] :=
  HeaderList.valuesOf_set_of_ne (by decide) .empty _

theorem grantedOrigins_text (status : UInt16) (content : String) :
    (text status content).grantedOrigins = [] :=
  HeaderList.valuesOf_set_of_ne (by decide) .empty _

/-- The list of the methods of a route says nothing about origins. -/
theorem grantedOrigins_withAllow (response : Response) (methods : String) :
    (response.withHeader allowHeader methods).grantedOrigins = response.grantedOrigins :=
  HeaderList.valuesOf_set_of_ne (by decide) response.headers methods

/-- A response that is silent about origins grants access to the one that the added headers for a
request name. -/
theorem grantsOriginTo_withHeaders {source : Cors.Request} {policy : Cors.Policy}
    (hsilent : response.grantedOrigins = []) (hsource : source.origin = request.header? "origin")
    (hcontrol : ∀ control ∈ policy.accessControl, control.allowedOrigins = some Cors.anyOrigin) :
    (response.withHeaders (Cors.applyHeaders source policy .empty)).GrantsOriginTo request := by
  have hpolicy := Cors.Policy.eq_anyOrigin_of_mem_origins hcontrol
  refine ⟨Cors.allowedOrigin policy.origins source.origin, ?_, fun hnone ↦ ?_⟩
  · refine HeaderList.valuesOf_copyOnto (Cors.valuesOf_applyHeaders rfl) ?_ hsilent
    refine Cors.isValueText_allowed hpolicy fun value hvalue ↦ ?_
    exact Request.isValueText_header? (hsource ▸ hvalue)
  · rw [hsource, Request.header?_origin hnone]
    exact Cors.allowedOrigin_none hpolicy

end Response

end Http

namespace Server

variable {server : Server} {arrival : Arrival} {request : Http.Request} {stores : Stores}
  {parameters : Http.Parameters}

/-- What has to be known about a request on a route before the headers for other origins are added
to its answer. -/
structure Understood (endpoint : Endpoint) (parameters : Http.Parameters)
    (request : Http.Request) : Prop where
  method : ∃ method, Method.parse request.method = .ok method
  parameters : endpoint = .waiting →
    ∃ read, Http.readParameters "execution_id" "suffix" parameters = .ok read
  body : endpoint = .waiting → ¬ request.isTooLarge

/-- Every answer to a call with a known method grants access to an origin: to a preflight, of the
engine, and that the call is refused. -/
theorem answerCall_grantsOriginTo (method : Method) (id : String) (suffix : Option String) :
    ((server.answerCall arrival request method id suffix).run stores).1.GrantsOriginTo request := by
  have hcontrol : ∀ control ∈ some WaitingWebhooks.accessControl,
      control.allowedOrigins = some Cors.anyOrigin := by
    rintro _ ⟨⟩
    rfl
  rw [run_answerCall]
  split
  · exact Http.Response.grantsOriginTo_withHeaders rfl rfl hcontrol
  rw [WaitingWebhooks.waiting_execute]
  rcases hrun : ((WaitingWebhooks.bundled (fun _ node ↦ WebhookCatalog.webhooks node)
      server.signer server.routePrefix arrival.now).execute
        (webhookCall request method id suffix)).run stores.executions with ⟨error | answer, after⟩
  · refine Http.Response.grantsOriginTo_withHeaders ?_ rfl hcontrol
    exact Http.Response.grantedOrigins_json ..
  · rw [WaitingWebhooks.answer_eq_started hrun]
    refine Http.Response.grantsOriginTo_withHeaders ?_ rfl hcontrol
    exact Http.Response.grantedOrigins_json ..

/-- So does every answer on the route of waiting executions to a request that is understood. -/
theorem answerWaiting_grantsOriginTo (h : Understood .waiting parameters request) :
    ((server.answerWaiting arrival request parameters).run stores).1.GrantsOriginTo request := by
  obtain ⟨method, hmethod⟩ := h.method
  obtain ⟨⟨id, suffix⟩, hread⟩ := h.parameters rfl
  simp only [answerWaiting, hread, hmethod, if_neg (h.body rfl)]
  exact answerCall_grantsOriginTo method id suffix

/-- Any other request there is refused without the header. -/
theorem answerWaiting_of_not_understood (h : ¬ Understood .waiting parameters request) :
    ((server.answerWaiting arrival request parameters).run stores).1.grantedOrigins = [] := by
  unfold answerWaiting
  split
  · exact Http.Response.grantedOrigins_text ..
  next id suffix hread =>
  split
  · exact Http.Response.grantedOrigins_text ..
  next hbody =>
  split
  · exact Http.Response.grantedOrigins_json ..
  next method hmethod =>
  exact absurd ⟨⟨method, hmethod⟩, fun _ ↦ ⟨_, hread⟩, fun _ ↦ hbody⟩ h

/-- The result of a handler says nothing about origins. -/
theorem respond_grantedOrigins (handler : Handler Envelope) :
    ((respond arrival handler).run stores).1.grantedOrigins = [] := by
  rw [run_respond]
  rcases handler.outcome stores with ⟨_ | _, _⟩
  · exact Http.Response.grantedOrigins_json ..
  · exact Http.Response.grantedOrigins_json ..

/-- With a known method, an answer that is silent about origins gets the header for one. -/
theorem withFallbackHeaders_grantsOriginTo {respond : StateM Stores Http.Response} {method : Method}
    (hmethod : Method.parse request.method = .ok method)
    (hsilent : (respond.run stores).1.grantedOrigins = []) :
    ((withFallbackHeaders request respond).run stores).1.GrantsOriginTo request := by
  rw [run_withFallbackHeaders hmethod]
  by_cases hoptions : method = .options
  · rw [if_pos hoptions]
    exact Http.Response.grantsOriginTo_withHeaders rfl rfl nofun
  · rw [if_neg hoptions]
    exact Http.Response.grantsOriginTo_withHeaders hsilent rfl nofun

/-- The answer to a request about a workflow grants access to an origin if the method is known. -/
theorem answerAction_grantsOriginTo (action : WorkflowAction) {method : Method}
    (hmethod : Method.parse request.method = .ok method) :
    ((answerAction action arrival request parameters).run stores).1.GrantsOriginTo request := by
  unfold answerAction
  split
  · refine withFallbackHeaders_grantsOriginTo hmethod ?_
    split
    · exact Http.Response.grantedOrigins_text ..
    split
    · exact Http.Response.grantedOrigins_text ..
    · exact respond_grantedOrigins _
  · have hsilent : ((pure (.empty 405) : StateM Stores Http.Response).run stores).1.grantedOrigins =
        [] := rfl
    obtain ⟨origin, hgranted, hany⟩ := withFallbackHeaders_grantsOriginTo hmethod hsilent
    exact ⟨origin, (Http.Response.grantedOrigins_withAllow ..).trans hgranted, hany⟩

/-- On any other method it is a refusal without the header. -/
theorem answerAction_of_unknown (action : WorkflowAction) {error : UnsupportedMethod}
    (hmethod : Method.parse request.method = .error error) :
    ((answerAction action arrival request parameters).run stores).1.grantedOrigins = [] := by
  have hpost : request.method ≠ "POST" := ne_of_apply_ne Method.parse (by rw [hmethod]; nofun)
  rw [answerAction, if_neg hpost, withFallbackHeaders_of_unknown hmethod]
  exact Http.Response.grantedOrigins_withAllow ..

/-- The answer on a route for other origins grants access to one exactly if the request is
understood; else it has no header for an origin. -/
theorem answerAt_grantsOriginTo (server : Server) (arrival : Arrival) (request : Http.Request)
    (stores : Stores) (parameters : Http.Parameters) {endpoint : Endpoint}
    (hendpoint : endpoint ≠ .health) :
    let response := ((server.answerAt arrival request endpoint parameters).run stores).1
    (Understood endpoint parameters request ∧ response.GrantsOriginTo request) ∨
      (¬ Understood endpoint parameters request ∧ response.grantedOrigins = []) := by
  by_cases hknown : Understood endpoint parameters request
  · refine .inl ⟨hknown, ?_⟩
    cases endpoint with
    | health => exact absurd rfl hendpoint
    | workflow action =>
        obtain ⟨method, hmethod⟩ := hknown.method
        exact answerAction_grantsOriginTo action hmethod
    | waiting => exact answerWaiting_grantsOriginTo hknown
  · refine .inr ⟨hknown, ?_⟩
    cases endpoint with
    | health => exact absurd rfl hendpoint
    | workflow action =>
        cases hmethod : Method.parse request.method with
        | ok method => exact absurd ⟨⟨method, hmethod⟩, nofun, nofun⟩ hknown
        | error error => exact answerAction_of_unknown action hmethod
    | waiting => exact answerWaiting_of_not_understood hknown

/-- Leaving the body out does not touch the headers. -/
theorem handle_headers {endpoint : Endpoint}
    (hroute : Http.findRoute? server.routes request.target.path = some (endpoint, parameters)) :
    ((server.handle arrival request).run stores).1.headers =
      ((server.answerAt arrival request endpoint parameters).run stores).1.headers := by
  rcases hrun : (server.answerAt arrival request endpoint parameters).run stores with
    ⟨response, after⟩
  obtain ⟨answer, hanswer, _, hheaders⟩ := run_handle_of_run_answerAt hroute hrun
  rw [hanswer]
  exact hheaders

/-- Every answer to an understood request on the route of waiting executions or of an action on a
workflow grants access to one origin, and to any origin if the request names none. The answer to a
request there that is not understood has no header for an origin. -/
theorem origin_granted_iff_understood (server : Server) (arrival : Arrival) (request : Http.Request)
    (stores : Stores) {endpoint : Endpoint} {parameters : Http.Parameters}
    (hroute : Http.findRoute? server.routes request.target.path = some (endpoint, parameters))
    (hendpoint : endpoint ≠ .health) :
    let response := ((server.handle arrival request).run stores).1
    (Understood endpoint parameters request → response.GrantsOriginTo request) ∧
      (¬ Understood endpoint parameters request → response.grantedOrigins = []) := by
  intro response
  rw [Http.Response.GrantsOriginTo, Http.Response.grantedOrigins, handle_headers hroute]
  rcases answerAt_grantsOriginTo server arrival request stores parameters hendpoint with
    ⟨hknown, hgrants⟩ | ⟨hnot, hnone⟩
  · exact ⟨fun _ ↦ hgrants, fun h ↦ absurd hknown h⟩
  · exact ⟨fun h ↦ absurd h hnot, fun _ ↦ hnone⟩

/-- A request without an origin for an execution that does not exist may come from any origin. -/
theorem origin_granted_on_refusal :
    let server : Server := ⟨⟨(· ++ "!"), fun _ _ ↦ false⟩, "webhook-waiting"⟩
    let request : Http.Request := ⟨"GET", .parse "/webhook-waiting/1", [], []⟩
    Http.findRoute? server.routes request.target.path =
        some (.waiting, [("execution_id", "1")]) ∧
      Understood .waiting [("execution_id", "1")] request ∧
      ((server.handle ⟨0, "", "", "", 0⟩ request).run .empty).1.GrantsOriginTo request := by
  intro server request
  have hroute : Http.findRoute? server.routes request.target.path =
      some (.waiting, [("execution_id", "1")]) := by decide
  have hknown : Understood .waiting [("execution_id", "1")] request :=
    ⟨⟨.get, Method.parse_name .get⟩, fun _ ↦ ⟨("1", none), rfl⟩, fun _ ↦ by decide⟩
  exact ⟨hroute, hknown, (origin_granted_iff_understood server ⟨0, "", "", "", 0⟩ request .empty
    hroute (by decide)).1 hknown⟩

/-- `server.WithholdsOrigin request` says a request, on one of these routes and with empty stores,
gets an answer that does not grant access as it should. -/
def WithholdsOrigin (server : Server) (request : Http.Request) : Prop :=
  (∃ endpoint parameters, Http.findRoute? server.routes request.target.path =
    some (endpoint, parameters) ∧ endpoint ≠ .health) ∧
  ¬ ((server.handle ⟨0, "", "", "", 0⟩ request).run .empty).1.GrantsOriginTo request

theorem withholdsOrigin_of_not_understood {endpoint : Endpoint}
    (hroute : Http.findRoute? server.routes request.target.path = some (endpoint, parameters))
    (hendpoint : endpoint ≠ .health) (hnot : ¬ Understood endpoint parameters request) :
    server.WithholdsOrigin request := by
  refine ⟨⟨endpoint, parameters, hroute, hendpoint⟩, ?_⟩
  rintro ⟨origin, hgranted, _⟩
  rw [Http.Response.grantedOrigins, handle_headers hroute] at hgranted
  rcases answerAt_grantsOriginTo server ⟨0, "", "", "", 0⟩ request .empty parameters hendpoint with
    ⟨hknown, _⟩ | ⟨_, hnone⟩
  · exact hnot hknown
  · cases hnone.symm.trans hgranted

/-- A method that is not one of the known ones, on either kind of route, an id that is not UTF-8 and
a body beyond the limit get answers without a header for an origin. -/
theorem no_origin_granted_early :
    let server : Server := ⟨⟨(· ++ "!"), fun _ _ ↦ false⟩, "webhook-waiting"⟩
    server.WithholdsOrigin ⟨"TRACE", .parse "/webhook-waiting/1", [], []⟩ ∧
      server.WithholdsOrigin ⟨"TRACE", .parse "/api/v1/workflows/1/activate", [], []⟩ ∧
      server.WithholdsOrigin ⟨"GET", .parse "/webhook-waiting/%FF", [], []⟩ ∧
      server.WithholdsOrigin
        ⟨"POST", .parse "/webhook-waiting/1", [], List.replicate 2097153 0x20⟩ := by
  intro server
  have hroute : Http.findRoute? server.routes "/webhook-waiting/1" =
      some (.waiting, [("execution_id", "1")]) := by decide
  refine ⟨?unknownMethod, ?unknownAction, ?undecodedId, ?longBody⟩
  case unknownMethod =>
    refine withholdsOrigin_of_not_understood hroute (by decide) fun h ↦ ?_
    obtain ⟨method, hmethod⟩ := h.method
    cases hmethod
  case unknownAction =>
    refine withholdsOrigin_of_not_understood
      (by decide : _ = some (.workflow .activate, [("id", "1")])) (by decide) fun h ↦ ?_
    obtain ⟨method, hmethod⟩ := h.method
    cases hmethod
  case undecodedId =>
    refine withholdsOrigin_of_not_understood
      (by decide : _ = some (.waiting, [("execution_id", "%FF")])) (by decide) fun h ↦ ?_
    obtain ⟨read, hread⟩ := h.parameters rfl
    cases hread
  case longBody =>
    have hlong : Http.Request.bodyLimit < (List.replicate 2097153 (0x20 : UInt8)).length := by
      rw [List.length_replicate]
      decide
    exact withholdsOrigin_of_not_understood hroute (by decide) fun h ↦
      h.body rfl (decide_eq_true hlong)

end Server

end FlowGate
