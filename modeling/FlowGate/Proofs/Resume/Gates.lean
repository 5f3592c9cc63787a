import FlowGate.Proofs.Resume.Bundled
import FlowGate.Proofs.Resume.Observed

/-!
# Where the gates to a resumption differ

Three checks look at the state of an execution: `Execution.isWaiting`, the look-up of methods and
`Execution.ensureResumable`, which decides on a call. `Execution.GatesAgree` says the other two
let an execution pass only if a call may resume it. They do not always: `gatesAgree_iff` says they
agree on all executions but the stranded ones, which are advertised or reported as waiting although
every call on them is refused.
-/

namespace FlowGate

namespace Execution

variable {execution : Execution}

/-- What it means that the gates agree on an execution. -/
structure GatesAgree (execution : Execution) : Prop where
  /-- An execution that is advertised with some method is in a state to resume from. -/
  advertised : ∀ {σ : Type} (service : WaitingWebhooks (StateM σ)) (state : σ)
    (path id : String) (suffix : Option String),
    splitWebhookPath? path = some (id, suffix) →
      service.found state id = .ok (some execution) → service.named state path ≠ [] →
        execution.ensureResumable = .ok ()
  /-- A call with an advertised method, and a valid token where one is required, reaches the
  engine. -/
  callable : ∀ {σ : Type} (service : WaitingWebhooks (StateM σ)) (state : σ) (path : String)
    (call : WebhookCall),
    splitWebhookPath? path = some (call.executionId, call.suffix) →
      service.found state call.executionId = .ok (some execution) →
        call.method ∈ service.named state path →
          (execution.data.validateSignature = true → service.signer.accepts call = true) →
            service.handed state call ≠ []
  /-- An execution is reported as waiting exactly when it is in a state to resume from. -/
  waiting : execution.isWaiting = true ↔ execution.ensureResumable = .ok ()

/-- `execution.IsStranded` says the execution is not finished, but either waits with an error or
has not started although a node of it ran last. -/
def IsStranded (execution : Execution) : Prop :=
  execution.finished = false ∧
    ((execution.status = .waiting ∧ execution.data.resultData.error ≠ none) ∨
      (execution.status = .new ∧ execution.lastNode? ≠ none))

/-- An open execution with a node that is not stranded can be resumed. -/
theorem IsOpen.ensureResumable_eq (h : execution.IsOpen) (hnode : execution.lastNode? ≠ none)
    (hstranded : ¬ execution.IsStranded) : execution.ensureResumable = .ok () := by
  obtain ⟨hfinished, hnew | hwaiting⟩ := h
  · exact absurd ⟨hfinished, .inr ⟨hnew, hnode⟩⟩ hstranded
  · refine ensureResumable_eq_ok_iff.2 ⟨hwaiting, hfinished, ?_⟩
    exact Decidable.byContradiction fun herror ↦
      hstranded ⟨hfinished, .inl ⟨hwaiting, herror⟩⟩

/-- An execution with a matching webhook has a node. -/
theorem lastNode?_ne_none {webhooks : NodeWebhooks} {suffix : Option String} {method : Method}
    (h : method ∈ matchingMethods (execution.lastWebhooks webhooks) suffix) :
    execution.lastNode? ≠ none := by
  intro hnone
  simp [lastWebhooks, hnone, matchingMethods] at h

/-- The service whose nodes offer a webhook for GET on the bare path, over an execution store. -/
def pausing : WaitingWebhooks (StateM ExecutionStore) :=
  .bundled (fun _ node ↦ [⟨.get, "", node.name, true⟩]) ⟨(· ++ "!"), fun _ _ ↦ false⟩ "wait" 0

/-- An open execution with a node is advertised wherever it is stored. -/
theorem IsOpen.get_mem_named (h : execution.IsOpen) (hnode : execution.lastNode? ≠ none)
    {state : ExecutionStore} (hstored : state.get? "1" = some execution) :
    .get ∈ pausing.named state "1" := by
  have hpath : splitWebhookPath? "1" = some ("1", none) := by decide
  rw [pausing.named_eq, hpath]
  show .get ∈ advertisedMethods pausing.webhooks none (.ok (state.get? "1"))
  rw [hstored]
  refine mem_advertisedMethods_iff.2 ⟨h, ?_⟩
  unfold lastWebhooks
  split
  next hnone => exact absurd hnone hnode
  · exact List.mem_singleton.2 rfl

/-- The gates agree on an execution exactly when it is not stranded. -/
theorem gatesAgree_iff (execution : Execution) :
    execution.GatesAgree ↔ ¬ execution.IsStranded := by
  constructor
  · rintro h ⟨hfinished, ⟨hwaiting, herror⟩ | ⟨hnew, hnode⟩⟩
    · have hresumable := h.waiting.1 (by simp [isWaiting, hwaiting, hfinished])
      exact herror (ensureResumable_eq_ok_iff.1 hresumable).2.2
    · -- a new execution is advertised as soon as its node offers a webhook
      have hstored : (Table.singleton "1" execution).get? "1" = some execution := by
        simp [Table.singleton, Table.get?_insert]
      have hnamed := IsOpen.get_mem_named ⟨hfinished, .inl hnew⟩ hnode hstored
      have hresumable := h.advertised pausing _ "1" "1" none (by decide)
        (congrArg Except.ok hstored) (List.ne_nil_of_mem hnamed)
      rw [(ensureResumable_eq_ok_iff.1 hresumable).1] at hnew
      cases hnew
  · intro hstranded
    have hresumable {webhooks : NodeWebhooks} {suffix : Option String} {method : Method}
        (h : method ∈ advertisedMethods webhooks suffix (.ok (some execution))) :
        execution.ensureResumable = .ok () := by
      obtain ⟨hopen, hmethod⟩ := mem_advertisedMethods_iff.1 h
      exact hopen.ensureResumable_eq (lastNode?_ne_none hmethod) hstranded
    -- whatever is advertised has a node and is not stranded, so that it waits without an error
    constructor
    case advertised =>
      intro σ service state path id suffix hpath hfound hnamed
      obtain ⟨method, hmethod⟩ := List.exists_mem_of_ne_nil _ hnamed
      rw [service.named_eq, hpath] at hmethod
      simp only [hfound] at hmethod
      exact hresumable hmethod
    case callable =>
      intro σ service state path call hpath hfound hmethod hauthorized
      rw [service.named_eq, hpath] at hmethod
      simp only [hfound] at hmethod
      have hmatching := (mem_advertisedMethods_iff.1 hmethod).2
      exact (WaitingWebhooks.handed_ne_nil_iff_of_found hfound).2
        ⟨hauthorized, hresumable hmethod, hmatching⟩
    case waiting =>
      rw [ensureResumable_eq_ok_iff]
      constructor
      · intro hwaiting
        simp only [isWaiting, Bool.and_eq_true, decide_eq_true_eq, Bool.not_eq_true'] at hwaiting
        refine ⟨hwaiting.1, hwaiting.2, ?_⟩
        exact Decidable.byContradiction fun herror ↦
          hstranded ⟨hwaiting.2, .inl ⟨hwaiting.1, herror⟩⟩
      · intro hexists
        obtain ⟨hstatus, hfinished, _⟩ := hexists
        simp [isWaiting, hstatus, hfinished]

/-- An execution that waits although an error is stored. -/
def failedWait : Execution :=
  let execution := Execution.waitingIn "1" (.plain "Wait" WebhookCatalog.waitNodeType)
  { execution with data := { execution.data with
      resultData := { execution.data.resultData with error := some (.string "timeout") } } }

/-- An execution that waits with an error is reported as waiting and advertised, but the call is
refused. -/
theorem failedWait_not_gatesAgree :
    let store := ExecutionStore.put .empty failedWait
    failedWait.isWaiting = true ∧
      pausing.named store "1" = [.get] ∧
      ((pausing.execute (.plain .get "1")).run store).1 =
        .error (.conflict "The execution \"1\" has finished with error.") ∧
      ¬ failedWait.GatesAgree := by
  refine ⟨by decide, by decide, rfl, fun h ↦ ?_⟩
  have hresumable := h.waiting.1 (by decide)
  cases (ensureResumable_eq_ok_iff.1 hresumable).2.2

end Execution

end FlowGate
