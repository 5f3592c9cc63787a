import FlowGate.Proofs.Resume.Record
import FlowGate.Proofs.Server.Requests

/-!
# The answers on the route of waiting executions

`run_handle` and `run_answerCall` say in one equation each how a request is answered and what it
leaves in the stores. `answerWaiting_cases` draws from them that the answer has the status 200
exactly when an execution was resumed, and `resumption_changes_one_record` joins this to what a call
does to the record of an execution.
-/

namespace FlowGate.Server

variable {server : Server} {arrival : Arrival} {request : Http.Request} {stores : Stores}
  {parameters : Http.Parameters}

/-- A request on a route is answered by its endpoint; an answer to HEAD loses its body. -/
theorem run_handle {endpoint : Endpoint}
    (hroute : Http.findRoute? server.routes request.target.path = some (endpoint, parameters)) :
    (server.handle arrival request).run stores =
      let (response, stores) :=
        (server.answerAt arrival request endpoint parameters).run stores
      (if request.method = "HEAD" then response.withoutBody else response, stores) := by
  simp only [handle, hroute]
  rfl

/-- The answer to a request on a route has the status and the headers that its endpoint gives it. -/
theorem run_handle_of_run_answerAt {endpoint : Endpoint} {response : Http.Response} {after : Stores}
    (hroute : Http.findRoute? server.routes request.target.path = some (endpoint, parameters))
    (hrun : (server.answerAt arrival request endpoint parameters).run stores = (response, after)) :
    ∃ answer, (server.handle arrival request).run stores = (answer, after) ∧
      answer.status = response.status ∧ answer.headers = response.headers := by
  refine ⟨if request.method = "HEAD" then response.withoutBody else response, ?_, ?_⟩
  · simp only [run_handle hroute, hrun]
  · split <;> exact ⟨rfl, rfl⟩

/-- The methods that the answer to a request on a waiting execution names. -/
def namedMethods (server : Server) (arrival : Arrival) (stores : Stores) (id : String)
    (suffix : Option String) : List Method :=
  (((server.waiting arrival.now).methods (webhookPath id suffix)).run stores).1

/-- A preflight gets an answer without a body. Any other request gets the answer of the engine, or
is told why the call was refused. Each of these has the headers for other origins. -/
theorem run_answerCall (method : Method) (id : String) (suffix : Option String) :
    (server.answerCall arrival request method id suffix).run stores =
      let headers := waitingHeaders (originRequest request method)
        (server.namedMethods arrival stores id suffix)
      if method = .options then ((Http.Response.empty 204).withHeaders headers, stores)
      else
        match ((server.waiting arrival.now).execute
          (webhookCall request method id suffix)).run stores with
        | (.ok answer, after) => ((ofWebhookResponse answer).withHeaders headers, after)
        | (.error error, after) =>
            (((Failure.webhook error).response arrival.requestId arrival.timestamp).withHeaders
              headers, after) := by
  have hmethods := methods_stores server arrival.now (webhookPath id suffix) stores
  unfold answerCall namedMethods
  simp only [bind, StateT.bind, StateT.run] at hmethods ⊢
  rcases hrun : (server.waiting arrival.now).methods (webhookPath id suffix) stores with
    ⟨methods, _⟩
  rw [hrun] at hmethods
  subst hmethods
  simp only
  split
  · rfl
  · simp only [StateT.bind, bind]
    rcases (server.waiting arrival.now).execute (webhookCall request method id suffix) _ with
      ⟨_ | _, _⟩ <;> rfl

/-- No failure is answered like a success. -/
theorem status_ne_ok (failure : Failure) : failure.status ≠ 200 := by
  cases failure with
  | webhook error => cases error <;> simp [Failure.status]
  | trigger error => cases error <;> simp [Failure.status]
  | notFound | methodNotAllowed | invalid | internal => simp [Failure.status]

/-- A request on the route of waiting executions has the status 200 if it has resumed an execution,
and else changes nothing. -/
theorem answerWaiting_cases (arrival : Arrival)
    (hroute : Http.findRoute? server.routes request.target.path = some (.waiting, parameters))
    (hkeyed : stores.executions.KeyedBy Execution.id) :
    ∃ response after, (server.answerWaiting arrival request parameters).run stores =
        (response, after) ∧
      ((response.status ≠ 200 ∧ after = stores) ∨
        response.status = 200 ∧ after = { stores with executions := after.executions } ∧
          ∃ call, server.Receives request call ∧
            stores.executions.ResumesOne after.executions call) := by
  unfold answerWaiting
  split
  · exact ⟨_, _, rfl, .inl ⟨(by decide : (400 : UInt16) ≠ 200), rfl⟩⟩
  next id suffix hparameters =>
  split
  · exact ⟨_, _, rfl, .inl ⟨(by decide : (413 : UInt16) ≠ 200), rfl⟩⟩
  split
  · exact ⟨_, _, rfl, .inl ⟨(by decide : (405 : UInt16) ≠ 200), rfl⟩⟩
  next method hmethod =>
  rw [run_answerCall]
  split
  · exact ⟨_, _, rfl, .inl ⟨(by decide : (204 : UInt16) ≠ 200), rfl⟩⟩
  next hoptions =>
  have hreceives : server.Receives request (webhookCall request method id suffix) :=
    ⟨⟨parameters, hroute, hparameters⟩, hmethod, hoptions, rfl⟩
  rw [WaitingWebhooks.waiting_execute]
  rcases hrun : ((WaitingWebhooks.bundled (fun _ node ↦ WebhookCatalog.webhooks node)
      server.signer server.routePrefix arrival.now).execute
        (webhookCall request method id suffix)).run stores.executions with ⟨error | answer, after⟩
  · rw [WaitingWebhooks.run_execute_bundled_error hrun]
    exact ⟨_, _, rfl, .inl ⟨status_ne_ok (.webhook error), rfl⟩⟩
  · have hresumes := WaitingWebhooks.run_execute_bundled_ok hkeyed hrun
    rw [WaitingWebhooks.answer_eq_started hrun]
    exact ⟨_, _, rfl, .inr ⟨rfl, rfl, _, hreceives, hresumes⟩⟩

/-- A refused call changes nothing, an accepted one the record of the execution it is addressed to,
and a server answers a request on the route of waiting executions with the status 200 exactly when
it has resumed an execution like this. -/
theorem resumption_changes_one_record :
    (∀ (webhooks : NodeWebhooks) (signer : UrlSigner) (routePrefix : String) (now : Int64)
      (call : WebhookCall) (store after : ExecutionStore),
      (∀ error, ((WaitingWebhooks.bundled webhooks signer routePrefix now).execute call).run store =
        (.error error, after) → after = store) ∧
      ∀ answer, store.KeyedBy Execution.id →
        ((WaitingWebhooks.bundled webhooks signer routePrefix now).execute call).run store =
          (.ok answer, after) → store.ResumesOne after call) ∧
    ∀ (server : Server) (arrival : Arrival) (request : Http.Request) (parameters : Http.Parameters)
      (stores : Stores),
      Http.findRoute? server.routes request.target.path = some (.waiting, parameters) →
      stores.executions.KeyedBy Execution.id →
      ∃ response after, (server.handle arrival request).run stores = (response, after) ∧
        (response.status = 200 ↔ ∃ call, server.Receives request call ∧
          stores.executions.ResumesOne after.executions call) ∧
        (response.status ≠ 200 → after = stores) ∧
        after = { stores with executions := after.executions } := by
  constructor
  · intro webhooks signer routePrefix now call store after
    exact ⟨fun _ ↦ WaitingWebhooks.run_execute_bundled_error,
      fun _ hkeyed ↦ WaitingWebhooks.run_execute_bundled_ok hkeyed⟩
  · intro server arrival request parameters stores hroute hkeyed
    obtain ⟨response, after, hrun, hcases⟩ :=
      answerWaiting_cases arrival hroute hkeyed
    refine ⟨if request.method = "HEAD" then response.withoutBody else response, after, ?_, ?_⟩
    · rw [run_handle hroute]
      simp only [answerAt, hrun]
    have hstatus : (if request.method = "HEAD" then response.withoutBody else response).status =
        response.status := by
      split <;> rfl
    rw [hstatus]
    rcases hcases with ⟨hrefused, rfl⟩ | ⟨hok, hafter, hresumed⟩
    · refine ⟨iff_of_false hrefused ?_, fun _ ↦ rfl, rfl⟩
      rintro ⟨call, _, hresumes⟩
      exact ExecutionStore.not_resumesOne_self _ call hresumes
    · exact ⟨iff_of_true hok hresumed, fun hne ↦ absurd hok hne, hafter⟩

/-- An execution that waits in a node whose last run had a frozen input. -/
def heldExecution : Execution :=
  let node := Node.plain "Wait" WebhookCatalog.waitNodeType
  let waiting := Execution.waitingIn "7" node
  let runs : List Run := [⟨1, 2, 0, [], none, none⟩, ⟨3, 4, 1, [none], some (.bool true), none⟩]
  { waiting with data := { waiting.data with
      resultData := { waiting.data.resultData with runData := .singleton "Wait" runs }
      nodeStack := some [⟨node, .null, none⟩, ⟨.plain "Next" "step", .null, none⟩] } }

/-- A call for another execution is refused and changes nothing. A GET request resumes the
execution, as the call that it stands for does, and changes no other record. -/
theorem heldExecution_changes_one_record :
    let server : Server := ⟨⟨(· ++ "!"), fun _ _ ↦ false⟩, "webhook-waiting"⟩
    let stores : Stores := { Stores.empty with executions := .put .empty heldExecution }
    let request : Http.Request := ⟨"GET", .parse "/webhook-waiting/7", [], []⟩
    let webhooks : NodeWebhooks := fun _ node ↦ WebhookCatalog.webhooks node
    let execute (id : String) := ((WaitingWebhooks.bundled webhooks server.signer
      server.routePrefix 0).execute (webhookCall request .get id none)).run stores.executions
    (∃ error after, execute "8" = (.error error, after) ∧ after = stores.executions) ∧
      (∃ answer after, execute "7" = (.ok answer, after) ∧
        stores.executions.ResumesOne after (webhookCall request .get "7" none)) ∧
      ∃ response after, (server.handle ⟨0, "", "", "", 0⟩ request).run stores =
          (response, after) ∧ response.status = 200 ∧
        ∃ call, server.Receives request call ∧
          stores.executions.ResumesOne after.executions call := by
  intro server stores request webhooks execute
  have hkeyed : stores.executions.KeyedBy Execution.id :=
    ExecutionStore.keyed_put (Table.keyedBy_empty _) heldExecution
  have hroute : Http.findRoute? server.routes request.target.path =
      some (.waiting, [("execution_id", "7")]) := by decide
  have hexecute := resumption_changes_one_record.1 webhooks server.signer server.routePrefix 0
  refine ⟨?refused, ?accepted, ?answered⟩
  case refused =>
    obtain ⟨error, hrun⟩ : ∃ error, execute "8" = (.error error, (execute "8").2) := ⟨_, rfl⟩
    exact ⟨error, _, hrun, (hexecute _ stores.executions _).1 error hrun⟩
  case accepted =>
    obtain ⟨answer, hrun⟩ : ∃ answer, execute "7" = (.ok answer, (execute "7").2) := ⟨_, rfl⟩
    exact ⟨answer, _, hrun, (hexecute _ stores.executions _).2 answer hkeyed hrun⟩
  case answered =>
    obtain ⟨response, after, hrun, hresumed, _⟩ :=
      resumption_changes_one_record.2 server ⟨0, "", "", "", 0⟩ request _ stores hroute hkeyed
    have hstatus : response.status = 200 := by
      have hanswer : ((server.handle ⟨0, "", "", "", 0⟩ request).run stores).1.status = 200 := by
        decide +kernel
      rwa [hrun] at hanswer
    exact ⟨response, after, hrun, hstatus, hresumed.1 hstatus⟩

end FlowGate.Server
