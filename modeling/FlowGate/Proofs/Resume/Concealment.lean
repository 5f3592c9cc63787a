import FlowGate.Proofs.Resume.Independence
import FlowGate.Proofs.Resume.Refusals
import FlowGate.Proofs.Resume.SignedText

/-!
# Protected executions are concealed

Two stores that differ only in an execution that demands a token cannot be told apart by calls
without a valid one. `run_execute_of_lacksToken` says such a call is refused in the same way
whatever the execution is, for every engine, and changes nothing. `concealed_step` says a call, and
`concealed_run` that any run of calls, on this or on other executions, gets the same answers from
the two stores and leaves stores of this kind behind.
-/

namespace FlowGate

/-- `call.LacksToken signer` says the call has no token, an empty one, or one that is not for its
host and path. -/
def WebhookCall.LacksToken (signer : UrlSigner) (call : WebhookCall) : Prop :=
  call.query.get? tokenParameter = none ∨ call.query.get? tokenParameter = some "" ∨
    ∃ token, call.query.get? tokenParameter = some token ∧ ¬ signer.VerifiesFor call token

theorem WebhookCall.lacksToken_iff {signer : UrlSigner} {call : WebhookCall} :
    call.LacksToken signer ↔ signer.accepts call = false := by
  rw [← Bool.not_eq_true, UrlSigner.accepts_iff, LacksToken]
  cases call.query.get? tokenParameter with
  | none => simp
  | some token =>
      by_cases hempty : token = ""
      · simp [hempty]
      · simp [hempty]

/-- `store.Guards id` says an execution with the id is stored and demands a token. -/
def ExecutionStore.Guards (store : ExecutionStore) (id : String) : Prop :=
  ∃ execution, store.get? id = some execution ∧ execution.data.validateSignature = true

/-- `Concealed id left right` says the two stores have executions under the id that demand a token,
whatever these are, and otherwise store the same. -/
structure Concealed (id : String) (left right : ExecutionStore) : Prop where
  guardsLeft : left.Guards id
  guardsRight : right.Guards id
  elsewhere : ∀ other, other ≠ id → left.get? other = right.get? other

namespace WaitingWebhooks

/-- The answer to a call without a valid token. -/
def tokenRefusal : Answer := .error (.unauthorized "Invalid or missing resume token")

/-- The service over an execution store with any engine, which works on the store and on a state of
its own. -/
def overStore {τ : Type} (webhooks : NodeWebhooks) (signer : UrlSigner) (routePrefix : String)
    (engine : Resumption →
      StateM (ExecutionStore × τ) (Except WebhookError (Option WebhookResponse))) :
    WaitingWebhooks (StateM (ExecutionStore × τ)) where
  findExecution id := do return .ok ((← get).1.get? id)
  webhooks := webhooks
  resume := engine
  signer := signer
  routePrefix := routePrefix

variable {webhooks : NodeWebhooks} {signer : UrlSigner} {routePrefix id : String}
  {call : WebhookCall} {store left right : ExecutionStore}

/-- What is found for a call without a valid token makes no difference, if it demands one. -/
theorem resolveCall_of_lacksToken (hguards : store.Guards id) (hid : call.executionId = id)
    (htoken : call.LacksToken signer) :
    resolveCall webhooks signer call (.ok (store.get? call.executionId)) =
      .error (.unauthorized "Invalid or missing resume token") := by
  obtain ⟨execution, hstored, hprotected⟩ := hguards
  rw [hid, hstored]
  refine (WebhookCall.Refused.unauthorized execution fun hauthorized ↦ ?_).resolveCall_eq
  have haccepts := UrlSigner.accepts_iff_hasToken.2 (hauthorized hprotected)
  rw [WebhookCall.lacksToken_iff.1 htoken] at haccepts
  cases haccepts

/-- A call on a protected execution without a valid token is refused, does not reach the engine and
changes nothing. -/
theorem run_execute_of_lacksToken {τ : Type}
    (engine : Resumption →
      StateM (ExecutionStore × τ) (Except WebhookError (Option WebhookResponse)))
    (hguards : store.Guards id) (hid : call.executionId = id) (htoken : call.LacksToken signer)
    (own : τ) :
    let service := overStore webhooks signer routePrefix engine
    (service.execute call).run (store, own) = (tokenRefusal, store, own) ∧
      service.handed (store, own) call = [] := by
  intro service
  have hresolve : resolveCall service.webhooks service.signer call
      (service.found (store, own) call.executionId) =
        .error (.unauthorized "Invalid or missing resume token") :=
    resolveCall_of_lacksToken hguards hid htoken
  constructor
  · rw [run_execute_found, hresolve]
    rfl
  · rw [handed_eq, hresolve]
    rfl

/-- With the bundled engine, too, such a call is refused and changes nothing. -/
theorem run_execute_bundled_of_lacksToken {timed : TimedCall} (hguards : store.Guards id)
    (hid : timed.id = id) (htoken : timed.call.LacksToken signer) :
    ((bundled webhooks signer routePrefix timed.now).execute timed.call).run store =
      (tokenRefusal, store) := by
  rw [run_execute_bundled, resolveCall_of_lacksToken hguards hid htoken]
  rfl

variable (webhooks signer routePrefix)

/-- A call on one of two stores that differ in a protected execution is answered as on the other
one, and neither loses its own execution, if the call has a token where it needs one. -/
theorem concealed_step (h : Concealed id left right) (hleft : left.KeyedBy Execution.id)
    (hright : right.KeyedBy Execution.id) (timed : TimedCall)
    (htoken : timed.id = id → timed.call.LacksToken signer) :
    let service := bundled webhooks signer routePrefix timed.now
    ∃ answer nextLeft nextRight,
      (service.execute timed.call).run left = (answer, nextLeft) ∧
        (service.execute timed.call).run right = (answer, nextRight) ∧
        nextLeft.KeyedBy Execution.id ∧ nextRight.KeyedBy Execution.id ∧
        nextLeft.get? id = left.get? id ∧ nextRight.get? id = right.get? id ∧
        ∀ other, other ≠ id → nextLeft.get? other = nextRight.get? other := by
  intro service
  by_cases hid : timed.id = id
  · exact ⟨tokenRefusal, left, right,
      run_execute_bundled_of_lacksToken h.guardsLeft hid (htoken hid),
      run_execute_bundled_of_lacksToken h.guardsRight hid (htoken hid), hleft, hright, rfl, rfl,
      h.elsewhere⟩
  · -- both stores have the same record, which decides on the answer and on what is left of it
    obtain ⟨nextLeft, hrunLeft, hkeyedLeft, hgetLeft⟩ :=
      run_execute_bundled_eq_respond webhooks signer routePrefix timed hleft
    obtain ⟨nextRight, hrunRight, hkeyedRight, hgetRight⟩ :=
      run_execute_bundled_eq_respond webhooks signer routePrefix timed hright
    rw [← h.elsewhere timed.id hid] at hrunRight hgetRight
    refine ⟨_, nextLeft, nextRight, hrunLeft, hrunRight, hkeyedLeft, hkeyedRight, ?_, ?_,
      fun other hother ↦ ?_⟩
    · rw [hgetLeft, if_neg (Ne.symm hid)]
    · rw [hgetRight, if_neg (Ne.symm hid)]
    · rw [hgetLeft, hgetRight, h.elsewhere other hother]

/-- So are the calls of a run, one after the other. -/
theorem concealed_run (calls : List TimedCall) (h : Concealed id left right)
    (hleft : left.KeyedBy Execution.id) (hright : right.KeyedBy Execution.id)
    (htokens : ∀ timed ∈ calls, timed.id = id → timed.call.LacksToken signer) :
    let run (store : ExecutionStore) := executeAll webhooks signer routePrefix calls store
    (run left).1 = (run right).1 ∧ (run left).2.get? id = left.get? id ∧
      (run right).2.get? id = right.get? id ∧
      ∀ other, other ≠ id → (run left).2.get? other = (run right).2.get? other := by
  intro run
  simp only [run]
  induction calls generalizing left right with
  | nil => exact ⟨rfl, rfl, rfl, h.elsewhere⟩
  | cons timed rest ih =>
      obtain ⟨answer, nextLeft, nextRight, hrunLeft, hrunRight, hkeyedLeft, hkeyedRight, hgetLeft,
        hgetRight, helsewhere⟩ := concealed_step webhooks signer routePrefix h hleft hright timed
          (htokens timed List.mem_cons_self)
      have hnext : Concealed id nextLeft nextRight := by
        refine ⟨?_, ?_, helsewhere⟩
        · rw [ExecutionStore.Guards, hgetLeft]
          exact h.guardsLeft
        · rw [ExecutionStore.Guards, hgetRight]
          exact h.guardsRight
      obtain ⟨hanswers, hkeptLeft, hkeptRight, hother⟩ := ih hnext hkeyedLeft hkeyedRight
        fun timed htimed ↦ htokens timed (List.mem_cons_of_mem _ htimed)
      simp only [executeAll] at hanswers hkeptLeft hkeptRight hother ⊢
      rw [transcript_cons, transcript_cons, hrunLeft, hrunRight]
      exact ⟨congrArg ((timed, answer) :: ·) hanswers, hkeptLeft.trans hgetLeft,
        hkeptRight.trans hgetRight, hother⟩

/-- Two stores that differ in a protected execution answer a call on it without a valid token alike:
it is refused, reaches no engine and changes nothing. And nothing can be learned by several calls:
with the bundled engine the two stores answer any run of calls alike that has no valid token for the
execution, and both keep their executions. -/
theorem protected_execution_concealed (h : Concealed id left right) :
    (∀ {τ : Type} (engine : Resumption →
        StateM (ExecutionStore × τ) (Except WebhookError (Option WebhookResponse)))
        (own : τ) (call : WebhookCall), call.executionId = id → call.LacksToken signer →
      let service := overStore webhooks signer routePrefix engine
      (service.execute call).run (left, own) = (tokenRefusal, left, own) ∧
        (service.execute call).run (right, own) = (tokenRefusal, right, own) ∧
        service.handed (left, own) call = [] ∧ service.handed (right, own) call = []) ∧
    (left.KeyedBy Execution.id → right.KeyedBy Execution.id → ∀ calls : List TimedCall,
      (∀ timed ∈ calls, timed.id = id → timed.call.LacksToken signer) →
        let run (store : ExecutionStore) := executeAll webhooks signer routePrefix calls store
        (run left).1 = (run right).1 ∧ (run left).2.get? id = left.get? id ∧
          (run right).2.get? id = right.get? id ∧
          ∀ other, other ≠ id → (run left).2.get? other = (run right).2.get? other) := by
  constructor
  · intro τ engine own call hid htoken service
    obtain ⟨hrunLeft, hhandedLeft⟩ :=
      run_execute_of_lacksToken engine h.guardsLeft hid htoken own
    obtain ⟨hrunRight, hhandedRight⟩ :=
      run_execute_of_lacksToken engine h.guardsRight hid htoken own
    exact ⟨hrunLeft, hrunRight, hhandedLeft, hhandedRight⟩
  · intro hleft hright calls htokens
    exact concealed_run webhooks signer routePrefix calls h hleft hright htokens

/-- A store with an execution that waits and needs no token, and one under the id `7`. -/
def besideWaiting (execution : Execution) : ExecutionStore :=
  (ExecutionStore.put .empty (.waitingIn "8" (.plain "Wait" WebhookCatalog.waitNodeType))).put
    { execution with id := "7" }

/-- An execution that waits for a GET request with a token. -/
def guardedWait : Execution :=
  let execution := Execution.waitingIn "7" (.plain "Wait" WebhookCatalog.waitNodeType)
  { execution with data := { execution.data with validateSignature := true } }

/-- An execution that has crashed before any node ran, and demands a token. -/
def guardedCrash : Execution :=
  { guardedWait with
    status := .crashed
    finished := true
    workflowData := ⟨"other", "Other", [], true, none, .empty⟩
    data := { guardedWait.data with resultData := ⟨.empty, none, some (.string "boom")⟩ } }

theorem concealed_guarded :
    Concealed "7" (besideWaiting guardedWait) (besideWaiting guardedCrash) where
  guardsLeft := ⟨_, rfl, rfl⟩
  guardsRight := ⟨_, rfl, rfl⟩
  elsewhere other hother := by
    simp only [besideWaiting, ExecutionStore.get?_put]
    rw [if_neg hother, if_neg hother]

theorem keyed_besideWaiting (execution : Execution) :
    (besideWaiting execution).KeyedBy Execution.id :=
  ExecutionStore.keyed_put (ExecutionStore.keyed_put (Table.keyedBy_empty _) _) _

/-- A call with the token of another path and a call with an empty token do not tell whether the
execution waits or has crashed, and a call on another execution in between does not help. -/
theorem guardedWait_concealed :
    let signer : UrlSigner := ⟨fun text ↦ "sig(" ++ text ++ ")",
      fun text token ↦ token = "sig(" ++ text ++ ")"⟩
    let call (id token : String) : WebhookCall :=
      { WebhookCall.plain .get id with
        headers := .singleton "host" "example.com"
        query := .singleton "signature" token }
    let calls : List TimedCall :=
      [⟨call "7" "sig(example.com/8)", 1⟩, ⟨call "8" "", 2⟩, ⟨call "7" "", 3⟩]
    let webhooks : NodeWebhooks := fun _ node ↦ WebhookCatalog.webhooks node
    let run (execution : Execution) :=
      executeAll webhooks signer "webhook-waiting" calls (besideWaiting execution)
    let silent : WaitingWebhooks (StateM (ExecutionStore × Unit)) :=
      overStore webhooks signer "webhook-waiting" fun _ ↦ pure (.ok none)
    Concealed "7" (besideWaiting guardedWait) (besideWaiting guardedCrash) ∧
      (∀ timed ∈ calls, timed.id = "7" → timed.call.LacksToken signer) ∧
      silent.handed (besideWaiting guardedWait, ()) (call "7" "") = [] ∧
      (run guardedWait).1.map (·.2.isOk) = [false, true, false] ∧
      (run guardedCrash).1 = (run guardedWait).1 ∧
      (run guardedCrash).2.get? "7" = some guardedCrash ∧
      (run guardedCrash).2.get? "8" = (run guardedWait).2.get? "8" := by
  intro signer call calls webhooks run silent
  have htokens : ∀ timed ∈ calls, timed.id = "7" → timed.call.LacksToken signer := by
    intro timed htimed hid
    rw [WebhookCall.lacksToken_iff]
    simp only [calls, List.mem_cons, List.not_mem_nil, or_false] at htimed
    rcases htimed with rfl | rfl | rfl
    · decide
    · exact absurd hid (by decide)
    · decide
  obtain ⟨hsingle, hrun⟩ :=
    protected_execution_concealed webhooks signer "webhook-waiting" concealed_guarded
  obtain ⟨_, _, hhanded, _⟩ :=
    hsingle (fun _ ↦ pure (.ok none)) () (call "7" "") rfl (.inr (.inl (by decide)))
  obtain ⟨hanswers, _, hkept, hother⟩ :=
    hrun (keyed_besideWaiting _) (keyed_besideWaiting _) calls htokens
  refine ⟨concealed_guarded, htokens, hhanded, by decide +kernel, hanswers.symm, hkept, ?_⟩
  exact (hother "8" (by decide)).symm

end WaitingWebhooks

end FlowGate
