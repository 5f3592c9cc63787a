import FlowGate.Proofs.Resume.Bundled
import FlowGate.Proofs.Server.WorkflowActions
import FlowGate.Server.Router

/-!
# What requests do to the stores

`Server.after` is the stores after any request, whatever its method, path, headers, query and body
are. `Server.after_cases` says what it can be: the stores as they were, those after a request about
a workflow, or those with one execution resumed by the call that the request makes.
-/

namespace FlowGate

/-- A request about a workflow does not touch the executions. -/
@[simp]
theorem Stores.after_executions (stores : Stores) (request : Server.WorkflowRequest) :
    (stores.after request).executions = stores.executions := by
  have heffect := stores.after_effect request
  generalize stores.after request = next at heffect ⊢
  cases heffect <;> rfl

namespace Server

/-- `server.Receives request call` says the request is on the route of waiting executions and is not
a preflight, and `call` is the call it makes. -/
structure Receives (server : Server) (request : Http.Request) (call : WebhookCall) : Prop where
  route : ∃ parameters,
    Http.findRoute? server.routes request.target.path = some (.waiting, parameters) ∧
      Http.readParameters "execution_id" "suffix" parameters = .ok (call.executionId, call.suffix)
  method : Method.parse request.method = .ok call.method
  notPreflight : call.method ≠ .options
  call_eq : call = webhookCall request call.method call.executionId call.suffix

/-- The path of a call is that of the request, as it was sent. -/
theorem Receives.path_eq {server : Server} {request : Http.Request} {call : WebhookCall}
    (h : server.Receives request call) : call.path = request.target.path := by
  rw [h.call_eq]
  rfl

/-- The stores after a request that arrives. -/
def after (server : Server) (stores : Stores) (request : Arrival × Http.Request) : Stores :=
  ((server.handle request.1 request.2).run stores).2

/-- The stores after requests, one after the other. -/
def afterAll (server : Server) (stores : Stores) (requests : List (Arrival × Http.Request)) :
    Stores :=
  requests.foldl server.after stores

/-- What a request can make of the stores. -/
inductive Effect (server : Server) (arrival : Arrival) (request : Http.Request) (stores : Stores) :
    Stores → Prop where
  | unchanged : Effect server arrival request stores stores
  /-- The request was about a workflow. -/
  | action (action : WorkflowAction) (id : String) :
      Effect server arrival request stores (stores.after ⟨action, arrival, id, request.body⟩)
  /-- The request was a call that resumed an execution. -/
  | resumed (call : WebhookCall) (execution : Execution) (resumption : Resumption)
      (hreceives : server.Receives request call)
      (hstored : stores.executions.get? call.executionId = some execution)
      (hfor : resumption.IsFor (fun _ node ↦ WebhookCatalog.webhooks node) server.signer call
        execution) :
      Effect server arrival request stores { stores with
        executions := stores.executions.insert call.executionId
          (execution.resumedOnce resumption.node call arrival.now) }

variable {server : Server} {arrival : Arrival} {request : Http.Request} {stores next : Stores}

/-- Finding out the methods of a path does not touch the stores. -/
theorem methods_stores (server : Server) (now : Int64) (path : String) (stores : Stores) :
    (((server.waiting now).methods path).run stores).2 = stores := by
  unfold WaitingWebhooks.methods
  cases splitWebhookPath? path <;> rfl

/-- A preflight on a waiting execution changes nothing; any other request does what its call
does. -/
theorem answerCall_stores (server : Server) (arrival : Arrival) (request : Http.Request)
    (method : Method) (id : String) (suffix : Option String) (stores : Stores) :
    ((server.answerCall arrival request method id suffix).run stores).2 =
      if method = .options then stores
      else (((server.waiting arrival.now).execute
        (webhookCall request method id suffix)).run stores).2 := by
  have hmethods := methods_stores server arrival.now (webhookPath id suffix) stores
  unfold answerCall
  simp only [bind, StateT.bind, StateT.run] at hmethods ⊢
  rcases hrun : (server.waiting arrival.now).methods (webhookPath id suffix) stores with
    ⟨methods, _⟩
  rw [hrun] at hmethods
  subst hmethods
  simp only
  split
  · rfl
  · simp only [StateT.bind, bind]
    rcases (server.waiting arrival.now).execute (webhookCall request method id suffix) _ with
      ⟨_ | _, _⟩ <;> rfl

/-- A request on the route of waiting executions resumes an execution or changes nothing. -/
theorem answerWaiting_effect {parameters : Http.Parameters}
    (hroute : Http.findRoute? server.routes request.target.path = some (.waiting, parameters))
    (hkeyed : stores.executions.KeyedBy Execution.id) :
    Effect server arrival request stores
      ((server.answerWaiting arrival request parameters).run stores).2 := by
  unfold answerWaiting
  split
  · exact .unchanged
  next id suffix hparameters =>
  split
  · exact .unchanged
  split
  · exact .unchanged
  next method hmethod =>
  rw [answerCall_stores]
  split
  · exact .unchanged
  next hoptions =>
  have hreceives : server.Receives request (webhookCall request method id suffix) :=
    ⟨⟨parameters, hroute, hparameters⟩, hmethod, hoptions, rfl⟩
  rw [WaitingWebhooks.waiting_execute]
  rcases WaitingWebhooks.run_execute_bundled_cases server.routePrefix arrival.now
      (fun _ node ↦ WebhookCatalog.webhooks node) server.signer
      (webhookCall request method id suffix) hkeyed with
    ⟨error, hrun⟩ | ⟨execution, resumption, hstored, hfor, hrun⟩
  · simp only [hrun]
    exact .unchanged
  · simp only [hrun]
    exact .resumed _ execution resumption hreceives hstored hfor

/-- Leaving the body out does not touch the stores. -/
theorem handle_of_route {endpoint : Endpoint} {parameters : Http.Parameters}
    (hroute : Http.findRoute? server.routes request.target.path = some (endpoint, parameters)) :
    ((server.handle arrival request).run stores).2 =
      ((server.answerAt arrival request endpoint parameters).run stores).2 := by
  simp only [handle, hroute]
  rfl

/-- Every request has one of the listed effects. -/
theorem after_cases (server : Server) (hkeyed : stores.executions.KeyedBy Execution.id)
    (arrival : Arrival) (request : Http.Request) :
    Effect server arrival request stores (server.after stores (arrival, request)) := by
  rw [after]
  cases hroute : Http.findRoute? server.routes request.target.path with
  | none =>
      simp only [handle, hroute]
      exact .unchanged
  | some found =>
      obtain ⟨endpoint, parameters⟩ := found
      rw [handle_of_route hroute]
      cases endpoint with
      | health => exact .unchanged
      | workflow action =>
          rcases Stores.answerAction_stores action arrival request parameters stores with
            hstores | ⟨id, hstores⟩
          · simp only [answerAt, hstores]
            exact .unchanged
          · simp only [answerAt, hstores]
            exact .action action id
      | waiting => exact answerWaiting_effect hroute hkeyed

/-- A request keeps every execution under its own id. -/
theorem Effect.keyed (h : Effect server arrival request stores next)
    (hkeyed : stores.executions.KeyedBy Execution.id) :
    next.executions.KeyedBy Execution.id := by
  cases h with
  | unchanged => exact hkeyed
  | action action id => rwa [Stores.after_executions]
  | resumed call execution resumption hreceives hstored hfor =>
      refine hkeyed.insert ?_
      exact (Execution.resumedOnce_id ..).trans (hkeyed _ _ hstored)

/-- So do any requests, one after the other. -/
theorem keyed_afterAll (server : Server) (requests : List (Arrival × Http.Request))
    (hkeyed : stores.executions.KeyedBy Execution.id) :
    (server.afterAll stores requests).executions.KeyedBy Execution.id := by
  induction requests generalizing stores with
  | nil => exact hkeyed
  | cons request requests ih =>
      exact ih ((after_cases server hkeyed request.1 request.2).keyed hkeyed)

end Server

end FlowGate
