import FlowGate.Proofs.Resume.Advertised

/-!
# What a service can be seen to do

A service works in any monad, so it can be run with a log of the resumptions it hands to its
engine. `WaitingWebhooks.noting` is the service with such a log and `handed` what the log holds
after a call. `run_noting_execute` says the log does not change what a call does, and
`handed_ne_nil_iff` that a call reaches the engine exactly when it may resume what it finds.
-/

namespace FlowGate

namespace WaitingWebhooks

variable {σ : Type} {service : WaitingWebhooks (StateM σ)} {state : σ} {call : WebhookCall}
  {resumption : Resumption}

/-- The service with a log of the resumptions that it hands to its engine. -/
def noting (service : WaitingWebhooks (StateM σ)) :
    WaitingWebhooks (StateM (σ × List Resumption)) where
  findExecution id := modifyGet fun (state, log) ↦
    let (found, state) := (service.findExecution id).run state
    (found, state, log)
  webhooks := service.webhooks
  resume resumption := modifyGet fun (state, log) ↦
    let (answer, state) := (service.resume resumption).run state
    (answer, state, log ++ [resumption])
  signer := service.signer
  routePrefix := service.routePrefix

/-- What the service finds under an id in a state. -/
def found (service : WaitingWebhooks (StateM σ)) (state : σ) (id : String) :
    Except RepositoryError (Option Execution) :=
  ((service.findExecution id).run state).1

/-- The resumptions that a call hands to the engine in a state. -/
def handed (service : WaitingWebhooks (StateM σ)) (state : σ) (call : WebhookCall) :
    List Resumption :=
  ((service.noting.execute call).run (state, [])).2.2

/-- The methods that a service names for a path in a state. -/
def named (service : WaitingWebhooks (StateM σ)) (state : σ) (path : String) : List Method :=
  ((service.methods path).run state).1

/-- The service with a log answers a call like the service, changes the state in the same way, and
notes the resumption if the call resolves. -/
theorem run_noting_execute (service : WaitingWebhooks (StateM σ)) (state : σ)
    (log : List Resumption) (call : WebhookCall) :
    (service.noting.execute call).run (state, log) =
      (((service.execute call).run state).1, ((service.execute call).run state).2,
        log ++ (resolveCall service.webhooks service.signer call
          (service.found state call.executionId)).toOption.toList) := by
  have hfind : (service.noting.findExecution call.executionId).run (state, log) =
      (service.found state call.executionId,
        ((service.findExecution call.executionId).run state).2, log) := rfl
  rw [run_execute, run_execute, hfind]
  simp only [noting, found]
  rcases (service.findExecution call.executionId).run state with ⟨result, next⟩
  simp only
  cases resolveCall service.webhooks service.signer call result with
  | error error => simp [Except.toOption]
  | ok resumption => rfl

/-- A call hands its resumption to the engine if it resolves, and nothing else. -/
theorem handed_eq (service : WaitingWebhooks (StateM σ)) (state : σ) (call : WebhookCall) :
    service.handed state call =
      (resolveCall service.webhooks service.signer call
        (service.found state call.executionId)).toOption.toList := by
  rw [handed, run_noting_execute]
  rfl

/-- A call hands on the resumptions for what it finds. -/
theorem mem_handed_iff :
    resumption ∈ service.handed state call ↔
      ∃ execution, service.found state call.executionId = .ok (some execution) ∧
        resumption.IsFor service.webhooks service.signer call execution := by
  rw [← resolveCall_eq_ok_iff, handed_eq]
  cases resolveCall service.webhooks service.signer call
    (service.found state call.executionId) <;> simp [Except.toOption, eq_comm]

/-- A call reaches the engine exactly when what it finds is an execution that it may resume. -/
theorem handed_ne_nil_iff :
    service.handed state call ≠ [] ↔
      ∃ execution resumption, service.found state call.executionId = .ok (some execution) ∧
        Resumption.IsFor service.webhooks service.signer call execution resumption := by
  constructor
  · intro h
    obtain ⟨resumption, hmem⟩ := List.exists_mem_of_ne_nil _ h
    obtain ⟨execution, hfound, hfor⟩ := mem_handed_iff.1 hmem
    exact ⟨execution, resumption, hfound, hfor⟩
  · intro hexists
    obtain ⟨execution, resumption, hfound, hfor⟩ := hexists
    exact List.ne_nil_of_mem (mem_handed_iff.2 ⟨execution, hfound, hfor⟩)

/-- A call on an execution that it finds reaches the engine exactly when it is authorized, the
execution can be resumed, and a webhook of the execution's node matches. -/
theorem handed_ne_nil_iff_of_found {execution : Execution}
    (hfound : service.found state call.executionId = .ok (some execution)) :
    service.handed state call ≠ [] ↔
      (execution.data.validateSignature = true → service.signer.accepts call = true) ∧
        execution.ensureResumable = .ok () ∧
        call.method ∈ matchingMethods (execution.lastWebhooks service.webhooks) call.suffix := by
  rw [handed_ne_nil_iff, ← Execution.exists_isFor_iff]
  constructor
  · intro hexists
    obtain ⟨other, resumption, hother, hfor⟩ := hexists
    rw [hfound] at hother
    cases hother
    exact ⟨resumption, hfor⟩
  · intro hexists
    obtain ⟨resumption, hfor⟩ := hexists
    exact ⟨execution, resumption, hfound, hfor⟩

/-- The methods named for a path are those of the execution and the suffix that the path leads
to. -/
theorem named_eq (service : WaitingWebhooks (StateM σ)) (state : σ) (path : String) :
    service.named state path =
      match splitWebhookPath? path with
      | none => []
      | some (id, suffix) =>
          advertisedMethods service.webhooks suffix (service.found state id) := by
  unfold named methods
  cases splitWebhookPath? path with
  | none => rfl
  | some parts => rfl

end WaitingWebhooks

end FlowGate
