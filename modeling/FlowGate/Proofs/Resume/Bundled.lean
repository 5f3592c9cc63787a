import FlowGate.Proofs.Resume.Resolution
import FlowGate.Proofs.Store.Keyed
import FlowGate.Server.Basic

/-!
# The service with the bundled engine

`WaitingWebhooks.bundled` is the service over one execution store that the bundled engine works on
as well. `run_execute_bundled` says in one equation what a call does to the store and how it is
answered, `run_execute_bundled_cases` that it is either refused without any change or resumes one
execution, and `waiting_execute` that the service of a server is this one on the executions of its
stores.
-/

namespace FlowGate

namespace Engine

variable {store claimed : ExecutionStore} {id : String}

/-- An execution is claimed exactly when it is stored, waiting and not finished; nothing but its
status changes. -/
theorem claim_eq_ok_iff :
    claim store id = .ok claimed ↔
      ∃ execution, store.get? id = some execution ∧ execution.status = .waiting ∧
        execution.finished = false ∧
        claimed = store.insert id { execution with status := .running } := by
  rw [← ExecutionStore.tryTransition_eq_ok_iff, claim]
  cases store.tryTransition id .waiting .running <;> simp

/-- A stored execution that cannot be claimed is refused as one that runs already. -/
theorem eq_conflict_of_claim {execution : Execution} {error : WebhookError}
    (hstored : store.get? id = some execution) (h : claim store id = .error error) :
    error = .conflict s!"The execution \"{id}\" is running already." := by
  rw [claim] at h
  cases htransition : store.tryTransition id .waiting .running with
  | ok claimed => simp [htransition] at h
  | error cause =>
      rw [htransition] at h
      cases h
      rw [ExecutionStore.eq_conflict_of_tryTransition hstored htransition]
      rfl

end Engine

/-- The record of an execution that one call has resumed at a node: prepared to go on behind the
node, with one more run of the node that holds the call, and completed. -/
def Execution.resumedOnce (execution : Execution) (node : Node) (call : WebhookCall) (now : Int64) :
    Execution :=
  let prepared := execution.prepareForResume node
  let results := prepared.data.resultData
  let runs := (results.runData.get? node.name).getD []
  { prepared with
    status := .success
    finished := true
    data := { prepared.data with
      resultData := { results with
        runData := results.runData.insert node.name (runs ++ [Run.ofCall now runs call]) } } }

namespace Execution

variable (execution : Execution) (node : Node) (call : WebhookCall) (now : Int64)

@[simp]
theorem resumedOnce_id : (execution.resumedOnce node call now).id = execution.id := rfl

/-- A resumed execution still demands a token if it did. -/
@[simp]
theorem resumedOnce_validateSignature :
    (execution.resumedOnce node call now).data.validateSignature =
      execution.data.validateSignature := rfl

end Execution

namespace Resumption.IsFor

variable {webhooks : NodeWebhooks} {signer : UrlSigner} {call : WebhookCall}
  {execution : Execution} {resumption : Resumption}

theorem id_eq (h : resumption.IsFor webhooks signer call execution) :
    resumption.execution.id = execution.id := by
  rw [h.prepared]
  rfl

theorem unfinished (h : resumption.IsFor webhooks signer call execution) :
    resumption.execution.finished = false := by
  rw [h.prepared]
  exact (Execution.ensureResumable_eq_ok_iff.1 h.resumable).2.1

/-- The completed copy is the record with one call resumed. -/
theorem completed_eq (h : resumption.IsFor webhooks signer call execution) (now : Int64) :
    resumption.completed now = execution.resumedOnce resumption.node call now := by
  simp only [Resumption.completed, Resumption.running, h.prepared, h.call, Execution.resumedOnce]

end Resumption.IsFor

namespace WaitingWebhooks

/-- The service over an execution store, with the bundled engine on the same store. The engine
records the call as made at a given time. -/
def bundled (webhooks : NodeWebhooks) (signer : UrlSigner) (routePrefix : String) (now : Int64) :
    WaitingWebhooks (StateM ExecutionStore) where
  findExecution id := do return .ok ((← get).get? id)
  webhooks := webhooks
  resume := Engine.resume now
  signer := signer
  routePrefix := routePrefix

/-- The bundled engine claims an execution and stores its running and its completed copy, one after
the other. -/
theorem run_resume (now : Int64) (resumption : Resumption) (store : ExecutionStore) :
    (Engine.resume now resumption).run store =
      match Engine.claim store resumption.execution.id with
      | .error error => (.error error, store)
      | .ok claimed =>
          (.ok (some Engine.started),
            (claimed.put (resumption.running now)).put (resumption.completed now)) := by
  simp only [Engine.resume, StateT.run, bind, StateT.bind, get, getThe, MonadStateOf.get,
    StateT.get, pure]
  cases Engine.claim store resumption.execution.id <;> rfl

section

variable (webhooks : NodeWebhooks) (signer : UrlSigner) (routePrefix : String) (now : Int64)

theorem run_findExecution_bundled (id : String) (store : ExecutionStore) :
    ((bundled webhooks signer routePrefix now).findExecution id).run store =
      (.ok (store.get? id), store) := rfl

/-- A call changes the store only if it resolves and claims its execution. -/
theorem run_execute_bundled (call : WebhookCall) (store : ExecutionStore) :
    ((bundled webhooks signer routePrefix now).execute call).run store =
      match resolveCall webhooks signer call (.ok (store.get? call.executionId)) with
      | .error error => (.error error, store)
      | .ok resumption =>
          match Engine.claim store resumption.execution.id with
          | .error error => (.error error, store)
          | .ok claimed =>
              (.ok Engine.started,
                (claimed.put (resumption.running now)).put (resumption.completed now)) := by
  rw [run_execute, run_findExecution_bundled]
  simp only [bundled]
  cases resolveCall webhooks signer call (.ok (store.get? call.executionId)) with
  | error error => rfl
  | ok resumption =>
      simp only [run_resume]
      cases Engine.claim store resumption.execution.id <;> rfl

variable {webhooks signer} {call : WebhookCall} {store : ExecutionStore} {execution : Execution}
  {resumption : Resumption}

/-- A call that may resume the stored execution is answered, and the execution then has the record
of one resumption. -/
theorem run_execute_bundled_of_isFor (hkeyed : store.KeyedBy Execution.id)
    (hstored : store.get? call.executionId = some execution)
    (hfor : resumption.IsFor webhooks signer call execution) :
    ((bundled webhooks signer routePrefix now).execute call).run store =
      (.ok Engine.started,
        store.insert call.executionId (execution.resumedOnce resumption.node call now)) := by
  have hid : resumption.execution.id = call.executionId := hfor.id_eq.trans (hkeyed _ _ hstored)
  obtain ⟨hwaiting, hunfinished, _⟩ := Execution.ensureResumable_eq_ok_iff.1 hfor.resumable
  have hclaim : Engine.claim store resumption.execution.id =
      .ok (store.insert call.executionId { execution with status := .running }) := by
    rw [hid]
    exact Engine.claim_eq_ok_iff.2 ⟨execution, hstored, hwaiting, hunfinished, rfl⟩
  rw [run_execute_bundled, resolveCall_eq_ok_iff.2 ⟨execution, congrArg Except.ok hstored, hfor⟩]
  simp only [hclaim]
  -- the claimed record and the running copy are overwritten by the completed copy
  have hrunning : (resumption.running now).id = call.executionId := hid
  have hcompleted : (resumption.completed now).id = call.executionId := hid
  rw [ExecutionStore.put, ExecutionStore.put, hrunning, hcompleted, Table.insert_insert,
    Table.insert_insert, hfor.completed_eq]

/-- A call is refused and changes nothing, or it resumes the execution it is addressed to. -/
theorem run_execute_bundled_cases (webhooks : NodeWebhooks) (signer : UrlSigner)
    (call : WebhookCall) (hkeyed : store.KeyedBy Execution.id) :
    (∃ error, ((bundled webhooks signer routePrefix now).execute call).run store =
      (.error error, store)) ∨
    ∃ (execution : Execution) (resumption : Resumption),
      store.get? call.executionId = some execution ∧
        resumption.IsFor webhooks signer call execution ∧
        ((bundled webhooks signer routePrefix now).execute call).run store =
          (.ok Engine.started,
            store.insert call.executionId (execution.resumedOnce resumption.node call now)) := by
  cases hresolve : resolveCall webhooks signer call (.ok (store.get? call.executionId)) with
  | error error =>
      refine .inl ⟨error, ?_⟩
      rw [run_execute_bundled, hresolve]
  | ok resumption =>
      obtain ⟨execution, hfound, hfor⟩ := resolveCall_eq_ok_iff.1 hresolve
      have hstored := Except.ok.inj hfound
      exact .inr ⟨execution, resumption, hstored, hfor,
        run_execute_bundled_of_isFor routePrefix now hkeyed hstored hfor⟩

end

theorem run_findExecution_waiting (server : Server) (now : Int64) (id : String) (stores : Stores) :
    ((server.waiting now).findExecution id).run stores =
      (.ok (stores.executions.get? id), stores) := rfl

/-- A server resumes executions as the bundled service does on its execution store, and leaves its
other stores alone. -/
theorem waiting_execute (server : Server) (now : Int64) (call : WebhookCall) (stores : Stores) :
    ((server.waiting now).execute call).run stores =
      let (result, executions) :=
        ((bundled (fun _ node ↦ WebhookCatalog.webhooks node) server.signer server.routePrefix
          now).execute call).run stores.executions
      (result, { stores with executions }) := by
  rw [run_execute, run_execute, run_findExecution_waiting, run_findExecution_bundled]
  simp only [bundled, Server.waiting]
  cases resolveCall (fun _ node ↦ WebhookCatalog.webhooks node) server.signer call
    (.ok (stores.executions.get? call.executionId)) <;> rfl

end WaitingWebhooks

end FlowGate
