import FlowGate.Proofs.Resume.Bundled
import FlowGate.Proofs.Resume.EffectiveHost
import FlowGate.Proofs.Resume.Observed

/-!
# Which calls reach the engine, and how the others are refused

`WebhookCall.Admitted` lists what a call needs to be handed to the engine, and `WebhookCall.Refused`
says with which error it is refused otherwise: each of its cases has the conditions that are checked
before and the one that fails. `WebhookCall.admitted_or_refused` says there is no third way,
`resolveCall_eq_error_iff` that these are the refusals, and `execute_gated` that for every
repository, catalog, signer and engine a call either is admitted and handed on once or is refused.
-/

namespace FlowGate

/-- `IsFirst p items item` says `item` is the first of the items with the property `p`. -/
def IsFirst {α : Type} (p : α → Prop) (items : List α) (item : α) : Prop :=
  ∃ before after, items = before ++ item :: after ∧ p item ∧ ∀ earlier ∈ before, ¬ p earlier

/-- A search through a list finds the first item with the property. -/
theorem find?_eq_some_iff_isFirst {α : Type} {found : α → Bool} {p : α → Prop} {items : List α}
    {item : α} (hfound : ∀ other, found other = true ↔ p other) :
    items.find? found = some item ↔ IsFirst p items item := by
  simp only [List.find?_eq_some_iff_append, IsFirst, ← hfound, Bool.not_eq_eq_eq_not, Bool.not_true,
    Bool.not_eq_true]
  constructor
  · intro hboth
    obtain ⟨hitem, before, after, hitems, hbefore⟩ := hboth
    exact ⟨before, after, hitems, hitem, hbefore⟩
  · intro hexists
    obtain ⟨before, after, hitems, hitem, hbefore⟩ := hexists
    exact ⟨hitem, before, after, hitems, hbefore⟩

/-- Either there is a first item with the property, or no item has it. -/
theorem exists_isFirst_or_forall_not {α : Type} (p : α → Prop) (items : List α) :
    (∃ item, IsFirst p items item) ∨ ∀ item ∈ items, ¬ p item := by
  classical
  cases hfind : items.find? (p ·) with
  | some item => exact .inl ⟨item, (find?_eq_some_iff_isFirst fun _ ↦ decide_eq_true_iff).1 hfind⟩
  | none => exact .inr fun item hitem ↦ by simpa using List.find?_eq_none.1 hfind item hitem

namespace Execution

/-- `execution.IsPaused` says the execution waits, is not finished and has no error. -/
def IsPaused (execution : Execution) : Prop :=
  execution.status = .waiting ∧ execution.finished = false ∧
    execution.data.resultData.error = none

/-- `execution.PausedAt node` says the node is the first one in the stored workflow that has the
name of the last node that ran. -/
def PausedAt (execution : Execution) (node : Node) : Prop :=
  ∃ name, execution.data.resultData.lastNodeExecuted = some name ∧
    IsFirst (·.name = name) execution.workflowData.nodes node

/-- `execution.Blocked text` says the state of the execution does not allow to resume it, and `text`
says why. Of several reasons the one that comes first here counts. -/
inductive Blocked (execution : Execution) : String → Prop where
  | running (hstatus : execution.status = .running) :
      Blocked execution s!"The execution \"{execution.id}\" is running already."
  | failed (hstatus : execution.status ≠ .running)
      (herror : execution.data.resultData.error ≠ none) :
      Blocked execution s!"The execution \"{execution.id}\" has finished with error."
  | ended (hstatus : execution.status ≠ .running) (herror : execution.data.resultData.error = none)
      (hended : execution.finished = true ∨ execution.status.isTerminal = true) :
      Blocked execution s!"The execution \"{execution.id}\" has finished already."
  | unstarted (hstatus : execution.status = .new)
      (herror : execution.data.resultData.error = none) (hfinished : execution.finished = false) :
      Blocked execution s!"The execution \"{execution.id}\" is not waiting."

variable {execution : Execution} {node : Node}

/-- The state of an execution is refused exactly if it blocks the execution. -/
theorem ensureResumable_eq_error_iff {error : WebhookError} :
    execution.ensureResumable = .error error ↔
      ∃ text, error = .conflict text ∧ execution.Blocked text := by
  constructor
  · intro h
    unfold ensureResumable at h
    split at h
    next hstatus => exact ⟨_, (Except.error.inj h).symm, .running hstatus⟩
    next hstatus =>
    split at h
    next herror =>
      exact ⟨_, (Except.error.inj h).symm, .failed hstatus (Option.isSome_iff_ne_none.1 herror)⟩
    next herror =>
    have herror : execution.data.resultData.error = none := by simpa using herror
    split at h
    next hended => exact ⟨_, (Except.error.inj h).symm, .ended hstatus herror hended⟩
    next hopen =>
    split at h
    next hnot =>
      refine ⟨_, (Except.error.inj h).symm, .unstarted ?_ herror (by simp_all)⟩
      cases hcase : execution.status <;> simp_all [ExecutionStatus.isTerminal]
    next => cases h
  · intro hexists
    obtain ⟨text, rfl, hblocked⟩ := hexists
    unfold ensureResumable
    cases hblocked with
    | running hstatus => rw [if_pos hstatus]
    | failed hstatus herror =>
        rw [if_neg hstatus, if_pos (Option.isSome_iff_ne_none.2 herror)]
    | ended hstatus herror hended =>
        rw [if_neg hstatus, if_neg (by simp [herror]), if_pos hended]
    | unstarted hstatus herror hfinished =>
        simp [hstatus, herror, hfinished, ExecutionStatus.isTerminal]

/-- An execution that is not paused is blocked. -/
theorem isPaused_or_blocked (execution : Execution) :
    execution.IsPaused ∨ ∃ text, execution.Blocked text := by
  cases hresumable : execution.ensureResumable with
  | ok => exact .inl (ensureResumable_eq_ok_iff.1 hresumable)
  | error error =>
      obtain ⟨text, _, hblocked⟩ := ensureResumable_eq_error_iff.1 hresumable
      exact .inr ⟨text, hblocked⟩

/-- The node that an execution was waiting in is the one at which it is paused. -/
theorem lastNode?_eq_some_iff : execution.lastNode? = some node ↔ execution.PausedAt node := by
  rw [lastNode?, Option.bind_eq_some_iff]
  refine exists_congr fun name ↦ and_congr_right fun _ ↦ ?_
  exact find?_eq_some_iff_isFirst fun other ↦ decide_eq_true_iff

end Execution

/-- `webhook.Matches call` says the webhook resumes executions by calls with the method and the path
suffix of this call; no suffix is the same as an empty one. -/
def WebhookDescriptor.Matches (call : WebhookCall) (webhook : WebhookDescriptor) : Prop :=
  webhook.isRestart = true ∧ webhook.method = call.method ∧ webhook.path = call.suffix.getD ""

namespace WebhookCall

/-- `call.Authorized signer execution` says the call has a valid token, or the execution does not
demand one. -/
def Authorized (signer : UrlSigner) (execution : Execution) (call : WebhookCall) : Prop :=
  execution.data.validateSignature = true → call.HasToken signer

/-- What a call needs to resume an execution at a node through a webhook. -/
structure Admitted (webhooks : NodeWebhooks) (signer : UrlSigner) (execution : Execution)
    (node : Node) (webhook : WebhookDescriptor) (call : WebhookCall) : Prop where
  authorized : call.Authorized signer execution
  paused : execution.IsPaused
  pausedAt : execution.PausedAt node
  matching : IsFirst (·.Matches call) (webhooks (.ofSnapshot execution.workflowData) node) webhook

/-- How a call is refused, after what has been found under its id: by the first condition that
fails. -/
inductive Refused (webhooks : NodeWebhooks) (signer : UrlSigner) (call : WebhookCall) :
    Except RepositoryError (Option Execution) → WebhookError → Prop where
  | unanswered (error : RepositoryError) :
      Refused webhooks signer call (.error error) (.repository error)
  | missing :
      Refused webhooks signer call (.ok none)
        (.notFound s!"The execution \"{call.executionId}\" does not exist.")
  | unauthorized (execution : Execution) (hauthorized : ¬ call.Authorized signer execution) :
      Refused webhooks signer call (.ok (some execution))
        (.unauthorized "Invalid or missing resume token")
  | blocked (execution : Execution) (text : String)
      (hauthorized : call.Authorized signer execution) (hblocked : execution.Blocked text) :
      Refused webhooks signer call (.ok (some execution)) (.conflict text)
  | unplaced (execution : Execution) (hauthorized : call.Authorized signer execution)
      (hpaused : execution.IsPaused)
      (hname : execution.data.resultData.lastNodeExecuted = none) :
      Refused webhooks signer call (.ok (some execution))
        (.notFound s!"The execution \"{call.executionId}\" has no node to resume from.")
  | nodeGone (execution : Execution) (name : String)
      (hauthorized : call.Authorized signer execution) (hpaused : execution.IsPaused)
      (hname : execution.data.resultData.lastNodeExecuted = some name)
      (hnodes : ∀ node ∈ execution.workflowData.nodes, node.name ≠ name) :
      Refused webhooks signer call (.ok (some execution))
        (.notFound (s!"The node \"{name}\" of execution \"{call.executionId}\" " ++
          "does not exist in its workflow."))
  | unmatched (execution : Execution) (node : Node)
      (hauthorized : call.Authorized signer execution) (hpaused : execution.IsPaused)
      (hnode : execution.PausedAt node)
      (hwebhooks : ∀ webhook ∈ webhooks (.ofSnapshot execution.workflowData) node,
        ¬ webhook.Matches call) :
      Refused webhooks signer call (.ok (some execution))
        (.notFound (s!"The execution \"{call.executionId}\" is not waiting for a " ++
          s!"{call.method.name} request on this path."))

end WebhookCall

variable {webhooks : NodeWebhooks} {signer : UrlSigner} {call : WebhookCall}
  {execution : Execution} {resumption : Resumption}

theorem matches_iff {webhook : WebhookDescriptor} :
    (webhook.isRestart && webhook.method = call.method && webhook.path = call.suffix.getD "") =
      true ↔ webhook.Matches call := by
  simp [WebhookDescriptor.Matches, and_assoc]

theorem authorized_iff :
    (execution.data.validateSignature && !signer.accepts call) = false ↔
      call.Authorized signer execution := by
  rw [WebhookCall.Authorized, ← UrlSigner.accepts_iff_hasToken]
  simp

/-- A call that may resume an execution is admitted. -/
theorem Resumption.IsFor.admitted (h : resumption.IsFor webhooks signer call execution) :
    call.Admitted webhooks signer execution resumption.node resumption.webhook where
  authorized hdemands := UrlSigner.accepts_iff_hasToken.1 (h.authorized hdemands)
  paused := Execution.ensureResumable_eq_ok_iff.1 h.resumable
  pausedAt := Execution.lastNode?_eq_some_iff.1 h.node
  matching := (find?_eq_some_iff_isFirst fun _ ↦ matches_iff).1 h.webhook

/-- A call that is admitted may resume the execution, at this node and through this webhook. -/
theorem WebhookCall.Admitted.isFor {node : Node} {webhook : WebhookDescriptor}
    (h : call.Admitted webhooks signer execution node webhook) :
    Resumption.IsFor webhooks signer call execution
      ⟨execution.prepareForResume node, .ofSnapshot execution.workflowData, node, webhook,
        call⟩ where
  authorized hdemands := UrlSigner.accepts_iff_hasToken.2 (h.authorized hdemands)
  resumable := Execution.ensureResumable_eq_ok_iff.2 h.paused
  node := Execution.lastNode?_eq_some_iff.2 h.pausedAt
  webhook := (find?_eq_some_iff_isFirst fun _ ↦ matches_iff).2 h.matching
  prepared := rfl
  workflow := rfl
  call := rfl

/-- Whatever is found, the call is admitted or there is a first condition that fails. -/
theorem WebhookCall.admitted_or_refused (webhooks : NodeWebhooks) (signer : UrlSigner)
    (call : WebhookCall) (found : Except RepositoryError (Option Execution)) :
    (∃ execution node webhook, found = .ok (some execution) ∧
        call.Admitted webhooks signer execution node webhook) ∨
      ∃ error, call.Refused webhooks signer found error := by
  rcases found with failure | _ | execution
  · exact .inr ⟨_, .unanswered failure⟩
  · exact .inr ⟨_, .missing⟩
  by_cases hauthorized : call.Authorized signer execution
  case neg => exact .inr ⟨_, .unauthorized execution hauthorized⟩
  rcases execution.isPaused_or_blocked with hpaused | ⟨text, hblocked⟩
  case inr => exact .inr ⟨_, .blocked execution text hauthorized hblocked⟩
  cases hname : execution.data.resultData.lastNodeExecuted with
  | none => exact .inr ⟨_, .unplaced execution hauthorized hpaused hname⟩
  | some name =>
      rcases exists_isFirst_or_forall_not (·.name = name) execution.workflowData.nodes with
        ⟨node, hfirst⟩ | hnodes
      case inr => exact .inr ⟨_, .nodeGone execution name hauthorized hpaused hname hnodes⟩
      have hnode : execution.PausedAt node := ⟨name, hname, hfirst⟩
      rcases exists_isFirst_or_forall_not (·.Matches call)
        (webhooks (.ofSnapshot execution.workflowData) node) with ⟨webhook, hwebhook⟩ | hwebhooks
      case inr => exact .inr ⟨_, .unmatched execution node hauthorized hpaused hnode hwebhooks⟩
      exact .inl ⟨execution, node, webhook, rfl, hauthorized, hpaused, hnode, hwebhook⟩

/-- A call whose first failing condition is known gets its error. -/
theorem WebhookCall.Refused.resolveCall_eq {found : Except RepositoryError (Option Execution)}
    {error : WebhookError} (h : call.Refused webhooks signer found error) :
    resolveCall webhooks signer call found = .error error := by
  cases h with
  | unanswered failure => rfl
  | missing => rfl
  | unauthorized execution hauthorized =>
      rw [← authorized_iff, Bool.not_eq_false] at hauthorized
      simp only [resolveCall, bind, Except.bind, hauthorized, if_true]
  | blocked execution text hauthorized hblocked =>
      have hensure := Execution.ensureResumable_eq_error_iff.2 ⟨text, rfl, hblocked⟩
      simp only [resolveCall, bind, Except.bind, authorized_iff.2 hauthorized, hensure,
        Bool.false_eq_true, if_false]
  | unplaced execution hauthorized hpaused hname =>
      have hensure := Execution.ensureResumable_eq_ok_iff.2 hpaused
      simp only [resolveCall, bind, Except.bind, authorized_iff.2 hauthorized, hensure, hname,
        Bool.false_eq_true, if_false]
  | nodeGone execution name hauthorized hpaused hname hnodes =>
      have hensure := Execution.ensureResumable_eq_ok_iff.2 hpaused
      have hnode : (Workflow.ofSnapshot execution.workflowData).node? name = none :=
        List.find?_eq_none.2 fun node hmem ↦ by simpa using hnodes node hmem
      simp only [resolveCall, bind, Except.bind, authorized_iff.2 hauthorized, hensure, hname,
        hnode, Bool.false_eq_true, if_false]
  | unmatched execution node hauthorized hpaused hnode hwebhooks =>
      have hensure := Execution.ensureResumable_eq_ok_iff.2 hpaused
      obtain ⟨name, hname, hfirst⟩ := hnode
      have hnode : (Workflow.ofSnapshot execution.workflowData).node? name = some node :=
        (find?_eq_some_iff_isFirst fun other ↦ decide_eq_true_iff).2 hfirst
      have hwebhook : findRestart? (webhooks (.ofSnapshot execution.workflowData) node)
          call.method call.suffix = none := by
        refine List.find?_eq_none.2 fun webhook hmem ↦ ?_
        rw [matches_iff]
        exact hwebhooks webhook hmem
      simp only [resolveCall, bind, Except.bind, authorized_iff.2 hauthorized, hensure, hname,
        hnode, hwebhook, Bool.false_eq_true, if_false]

/-- A call is refused exactly with the error of the first condition that fails. -/
theorem resolveCall_eq_error_iff {found : Except RepositoryError (Option Execution)}
    {error : WebhookError} :
    resolveCall webhooks signer call found = .error error ↔
      call.Refused webhooks signer found error := by
  refine ⟨fun h ↦ ?_, WebhookCall.Refused.resolveCall_eq⟩
  rcases call.admitted_or_refused webhooks signer found with
    ⟨execution, node, webhook, rfl, hadmitted⟩ | ⟨first, hrefused⟩
  · rw [resolveCall_eq_ok_iff.2 ⟨execution, rfl, hadmitted.isFor⟩] at h
    cases h
  · cases hrefused.resolveCall_eq.symm.trans h
    exact hrefused

namespace WaitingWebhooks

variable {σ : Type}

/-- A call is decided on by what is found, and goes on from the state that the look-up leaves. -/
theorem run_execute_found (service : WaitingWebhooks (StateM σ)) (state : σ) (call : WebhookCall) :
    (service.execute call).run state =
      match resolveCall service.webhooks service.signer call
        (service.found state call.executionId) with
      | .error error => (.error error, ((service.findExecution call.executionId).run state).2)
      | .ok resumption =>
          let (answer, final) := (service.resume resumption).run
            ((service.findExecution call.executionId).run state).2
          (relay answer, final) := by
  rw [run_execute]
  rfl

/-- What a call on a service does in a state: it is handed to the engine once if it is admitted, and
refused otherwise. -/
structure Gated (service : WaitingWebhooks (StateM σ)) (state : σ) (call : WebhookCall) : Prop where
  /-- The engine is called exactly if an execution is found and the call is admitted to it. -/
  handed_iff : service.handed state call ≠ [] ↔
    ∃ execution node webhook, service.found state call.executionId = .ok (some execution) ∧
      call.Admitted service.webhooks service.signer execution node webhook
  /-- It is called once, with the prepared execution, the node, the webhook and the call. -/
  handed_eq : ∀ execution node webhook,
    service.found state call.executionId = .ok (some execution) →
      call.Admitted service.webhooks service.signer execution node webhook →
        service.handed state call = [⟨execution.prepareForResume node,
          .ofSnapshot execution.workflowData, node, webhook, call⟩]
  /-- Its answer is passed on. -/
  relayed : ∀ resumption ∈ service.handed state call,
    (service.execute call).run state =
      let (answer, final) := (service.resume resumption).run
        ((service.findExecution call.executionId).run state).2
      (relay answer, final)
  /-- A call that is not handed on only looks up, and is refused with an error. -/
  refused : service.handed state call = [] → ∃ error,
    (service.execute call).run state =
      (.error error, ((service.findExecution call.executionId).run state).2)
  /-- The error is that of the first condition that fails. -/
  refused_iff : ∀ error,
    service.handed state call = [] ∧ ((service.execute call).run state).1 = .error error ↔
      call.Refused service.webhooks service.signer (service.found state call.executionId) error

/-- For every repository, catalog, signer and engine a call either is admitted, and handed to the
engine once, or is refused by the first condition that fails. -/
theorem execute_gated (service : WaitingWebhooks (StateM σ)) (state : σ) (call : WebhookCall) :
    service.Gated state call := by
  have hhanded := service.handed_eq state call
  have hrun := service.run_execute_found state call
  constructor
  case handed_iff =>
    rw [handed_ne_nil_iff]
    constructor
    · intro hexists
      obtain ⟨execution, resumption, hfound, hfor⟩ := hexists
      exact ⟨execution, _, _, hfound, hfor.admitted⟩
    · intro hexists
      obtain ⟨execution, node, webhook, hfound, hadmitted⟩ := hexists
      exact ⟨execution, _, hfound, hadmitted.isFor⟩
  case handed_eq =>
    intro execution node webhook hfound hadmitted
    rw [hhanded, resolveCall_eq_ok_iff.2 ⟨execution, hfound, hadmitted.isFor⟩]
    rfl
  case relayed =>
    intro resumption hmem
    rw [hrun, resolveCall_eq_ok_iff.2 (mem_handed_iff.1 hmem)]
  case refused =>
    intro hnone
    rw [hhanded] at hnone
    rw [hrun]
    cases hresolve : resolveCall service.webhooks service.signer call
        (service.found state call.executionId) with
    | error error => exact ⟨error, rfl⟩
    | ok resumption =>
        rw [hresolve] at hnone
        cases hnone
  case refused_iff =>
    intro error
    rw [← resolveCall_eq_error_iff, hhanded, hrun]
    cases resolveCall service.webhooks service.signer call
      (service.found state call.executionId) <;> simp [Except.toOption]

/-- Of two nodes with the name of the last one that ran, and of two webhooks that match, the first
ones are handed on. -/
example :
    let webhooks : NodeWebhooks := fun _ _ ↦
      [⟨.get, "", "skipped", false⟩, ⟨.get, "", "first", true⟩, ⟨.get, "", "second", true⟩]
    let execution := Execution.waitingIn "7" (.plain "Ask" "form")
    let twice := { execution with workflowData := { execution.workflowData with
      nodes := [.plain "Start" "manual", .plain "Ask" "form", .plain "Ask" "pause"] } }
    let service := bundled webhooks (.hmac [0]) "wait" 0
    (service.handed (.put .empty twice) (.plain .get "7")).map (fun resumption ↦
      (resumption.node.type, resumption.webhook.node)) = [("form", "first")] := by
  decide

end WaitingWebhooks

end FlowGate
