import FlowGate.Resume.Waiting

/-!
# When a call resumes an execution

`Resumption.IsFor` lists what a stored execution and a call must satisfy for the call to resume the
execution, and `resolveCall_eq_ok_iff` says `resolveCall` succeeds in exactly these cases.
`ensureResumable_eq_ok_iff` says which states of an execution are not refused.
`WaitingWebhooks.run_execute` says what a call does in one equation.
-/

namespace FlowGate

namespace Execution

variable {execution : Execution}

/-- Only an unfinished execution that waits and has no error can be resumed. -/
theorem ensureResumable_eq_ok_iff :
    execution.ensureResumable = .ok () ↔
      execution.status = .waiting ∧ execution.finished = false ∧
        execution.data.resultData.error = none := by
  unfold ensureResumable
  cases execution.status <;> cases execution.finished <;>
    cases execution.data.resultData.error <;> simp [ExecutionStatus.isTerminal]

/-- The node that an execution was waiting in: the first one of its workflow with the name of the
last node that ran. -/
def lastNode? (execution : Execution) : Option Node :=
  execution.data.resultData.lastNodeExecuted.bind
    (Workflow.ofSnapshot execution.workflowData).node?

end Execution

/-- A node without parameters. -/
def Node.plain (name type : String) : Node := ⟨name, type, .one, .empty, false, none⟩

/-- A call without headers, query and body on the bare path of an execution. -/
def WebhookCall.plain (method : Method) (id : String) : WebhookCall :=
  ⟨method, id, none, "/" ++ id, .empty, .empty, .null⟩

/-- An execution that waits in the only node of its workflow and needs no token. -/
def Execution.waitingIn (id : String) (node : Node) : Execution where
  id := id
  status := .waiting
  finished := false
  mode := .trigger
  workflowData := ⟨"", "", [node], false, none, .empty⟩
  data := { ExecutionData.empty with resultData := ⟨.empty, some node.name, none⟩ }

/-- `resumption.IsFor webhooks signer call execution` says the call may resume the execution and
`resumption` is what the engine needs for it. -/
structure Resumption.IsFor (webhooks : NodeWebhooks) (signer : UrlSigner) (call : WebhookCall)
    (execution : Execution) (resumption : Resumption) : Prop where
  authorized : execution.data.validateSignature = true → signer.accepts call = true
  resumable : execution.ensureResumable = .ok ()
  node : execution.lastNode? = some resumption.node
  webhook : findRestart? (webhooks (Workflow.ofSnapshot execution.workflowData) resumption.node)
    call.method call.suffix = some resumption.webhook
  prepared : resumption.execution = execution.prepareForResume resumption.node
  workflow : resumption.workflow = Workflow.ofSnapshot execution.workflowData
  call : resumption.call = call

variable {webhooks : NodeWebhooks} {signer : UrlSigner} {call : WebhookCall}
  {execution : Execution} {resumption : Resumption}

/-- A call resumes exactly the executions that it may resume. -/
theorem resolveCall_eq_ok_iff {found : Except RepositoryError (Option Execution)} :
    resolveCall webhooks signer call found = .ok resumption ↔
      ∃ execution, found = .ok (some execution) ∧
        resumption.IsFor webhooks signer call execution := by
  constructor
  · -- each check that was passed gives one condition
    intro h
    rcases found with error | _ | execution
    · simp [resolveCall, bind, Except.bind] at h
    · simp [resolveCall, bind, Except.bind] at h
    · refine ⟨execution, rfl, ?_⟩
      simp only [resolveCall, bind, Except.bind, pure, Except.pure] at h
      split at h
      · cases h
      next hauthorized =>
      split at h
      · cases h
      next hresumable =>
      split at h
      · cases h
      next nodeName hname =>
      split at h
      · cases h
      next node hnode =>
      split at h
      · cases h
      next webhook hwebhook =>
      cases h
      exact {
        authorized := by simpa using hauthorized
        resumable := hresumable
        node := by simp [Execution.lastNode?, hname, hnode]
        webhook := hwebhook
        prepared := rfl
        workflow := rfl
        call := rfl }
  · intro hexists
    obtain ⟨execution, rfl, h⟩ := hexists
    obtain ⟨nodeName, hname, hnode⟩ := Option.bind_eq_some_iff.1 h.node
    have hauthorized : (execution.data.validateSignature && !signer.accepts call) = false := by
      simpa using h.authorized
    have hresumption : resumption = ⟨execution.prepareForResume resumption.node,
        Workflow.ofSnapshot execution.workflowData, resumption.node, resumption.webhook, call⟩ :=
      Resumption.ext h.prepared h.workflow rfl rfl h.call
    simp only [resolveCall, bind, Except.bind, pure, Except.pure, hauthorized, h.resumable, hname,
      hnode, h.webhook, Bool.false_eq_true, if_false]
    rw [← hresumption]

/-- A service over some state looks an execution up, decides on the call and, if it resolves, hands
it to the engine. -/
theorem WaitingWebhooks.run_execute {σ : Type} (service : WaitingWebhooks (StateM σ))
    (call : WebhookCall) (state : σ) :
    (service.execute call).run state =
      let (found, state) := (service.findExecution call.executionId).run state
      match resolveCall service.webhooks service.signer call found with
      | .error error => (.error error, state)
      | .ok resumption =>
          let (answer, state) := (service.resume resumption).run state
          (relay answer, state) := by
  unfold execute
  simp only [StateT.run, bind, StateT.bind]
  rcases service.findExecution call.executionId state with ⟨found, state⟩
  simp only
  cases resolveCall service.webhooks service.signer call found <;> rfl

end FlowGate
