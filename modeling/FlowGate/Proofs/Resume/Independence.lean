import FlowGate.Proofs.Resume.Bundled

/-!
# Calls on different executions do not interfere

With the bundled engine a call is answered from the record of the execution it is addressed to, and
changes this record only: `run_execute_bundled_eq_respond`. By induction over the calls, what a run
of many calls does to one execution is what the calls to it do on their own
(`filter_executeAll`), so `executions_independent` allows to leave out the calls to other executions
and to change their order.
-/

namespace FlowGate

/-- A call and the time at which it is made. -/
structure TimedCall where
  call : WebhookCall
  now : Int64

namespace TimedCall

/-- The execution that a call is addressed to. -/
def id (timed : TimedCall) : String := timed.call.executionId

end TimedCall

namespace WaitingWebhooks

/-- The answer to a call. -/
abbrev Answer := Except WebhookError WebhookResponse

/-- The calls of a list with the answers to them if each one is made on the state that the one
before has left, and the last of these states. -/
def transcript {σ : Type} (respond : TimedCall → StateM σ Answer) :
    List TimedCall → σ → List (TimedCall × Answer) × σ
  | [], state => ([], state)
  | timed :: rest, state =>
      let (answer, state) := (respond timed).run state
      let (exchanges, state) := transcript respond rest state
      ((timed, answer) :: exchanges, state)

theorem transcript_cons {σ : Type} (respond : TimedCall → StateM σ Answer) (timed : TimedCall)
    (rest : List TimedCall) (state : σ) :
    transcript respond (timed :: rest) state =
      let result := (respond timed).run state
      let others := transcript respond rest result.2
      ((timed, result.1) :: others.1, others.2) := rfl

/-- Every call gets an answer, in order. -/
theorem map_fst_transcript {σ : Type} (respond : TimedCall → StateM σ Answer)
    (calls : List TimedCall) (state : σ) :
    (transcript respond calls state).1.map (·.1) = calls := by
  induction calls generalizing state with
  | nil => rfl
  | cons timed rest ih => rw [transcript_cons, List.map_cons, ih]

/-- The calls with the answers of the bundled service over a store, and the store afterwards. -/
def executeAll (webhooks : NodeWebhooks) (signer : UrlSigner) (routePrefix : String) :
    List TimedCall → ExecutionStore → List (TimedCall × Answer) × ExecutionStore :=
  transcript fun timed ↦ (bundled webhooks signer routePrefix timed.now).execute timed.call

/-- The answer to a call as far as the record of its execution decides on it, and the record
afterwards. -/
def respond (webhooks : NodeWebhooks) (signer : UrlSigner) (timed : TimedCall) :
    StateM (Option Execution) Answer := fun record ↦
  match resolveCall webhooks signer timed.call (.ok record) with
  | .error error => (.error error, record)
  | .ok resumption =>
      (.ok Engine.started,
        record.map fun execution ↦ execution.resumedOnce resumption.node timed.call timed.now)

variable (webhooks : NodeWebhooks) (signer : UrlSigner) {store : ExecutionStore}

/-- A call is answered from the record of its execution. It changes no other record. -/
theorem run_execute_bundled_eq_respond (routePrefix : String) (timed : TimedCall)
    (hkeyed : store.KeyedBy Execution.id) :
    ∃ after,
      ((bundled webhooks signer routePrefix timed.now).execute timed.call).run store =
          (((respond webhooks signer timed).run (store.get? timed.id)).1, after) ∧
        after.KeyedBy Execution.id ∧
        ∀ id, after.get? id =
          if id = timed.id then ((respond webhooks signer timed).run (store.get? timed.id)).2
          else store.get? id := by
  simp only [StateT.run, respond]
  cases hresolve : resolveCall webhooks signer timed.call (.ok (store.get? timed.id)) with
  | error error =>
      refine ⟨store, ?_, hkeyed, fun id ↦ ?_⟩
      · have hrun := run_execute_bundled webhooks signer routePrefix timed.now timed.call store
        rw [TimedCall.id] at hresolve
        rwa [hresolve] at hrun
      · split
        · next hid => rw [hid]
        · rfl
  | ok resumption =>
      obtain ⟨execution, hfound, hfor⟩ := resolveCall_eq_ok_iff.1 hresolve
      have hstored : store.get? timed.id = some execution := Except.ok.inj hfound
      refine ⟨_, run_execute_bundled_of_isFor routePrefix timed.now hkeyed hstored hfor, ?_,
        fun id ↦ ?_⟩
      · exact hkeyed.insert ((Execution.resumedOnce_id ..).trans (hkeyed _ _ hstored))
      · rw [hstored]
        exact Table.get?_insert ..

/-- In a run of calls those to one execution get the answers, and bring about the record, that they
would if the record were all there is. -/
theorem filter_executeAll (routePrefix : String) (hkeyed : store.KeyedBy Execution.id)
    (calls : List TimedCall) (id : String) :
    let run := executeAll webhooks signer routePrefix calls store
    (run.1.filter (·.1.id = id), run.2.get? id) =
      transcript (respond webhooks signer) (calls.filter (·.id = id)) (store.get? id) := by
  induction calls generalizing store with
  | nil => rfl
  | cons timed rest ih =>
      obtain ⟨after, hrun, hafter, hget⟩ :=
        run_execute_bundled_eq_respond webhooks signer routePrefix timed hkeyed
      have hrest := Prod.ext_iff.1 (ih hafter)
      rw [hget] at hrest
      simp only [executeAll, transcript_cons, hrun, List.filter_cons] at hrest ⊢
      by_cases hid : timed.id = id
      · -- the call is answered from the record, and the rest goes on from what it leaves there
        subst hid
        rw [if_pos rfl] at hrest
        simp only [decide_true, if_true, transcript_cons]
        exact Prod.ext (congrArg (_ :: ·) hrest.1) hrest.2
      · -- the call does not touch the record
        rw [if_neg (Ne.symm hid)] at hrest
        simp only [hid, decide_false, Bool.false_eq_true, if_false]
        exact Prod.ext hrest.1 hrest.2

/-- Whatever calls are made, one after the other, each execution gets the record that the calls to
it bring about on their own, and these calls get the answers that they get on their own. So it does
not matter in which order calls to different executions are made. -/
theorem executions_independent (routePrefix : String) (hkeyed : store.KeyedBy Execution.id) :
    let run (calls : List TimedCall) := executeAll webhooks signer routePrefix calls store
    (∀ calls id,
      (run calls).2.get? id = (run (calls.filter (·.id = id))).2.get? id ∧
        (run calls).1.filter (·.1.id = id) = (run (calls.filter (·.id = id))).1) ∧
    ∀ calls others, (∀ id, calls.filter (·.id = id) = others.filter (·.id = id)) →
      (run calls).2 = (run others).2 ∧
        ∀ id, (run calls).1.filter (·.1.id = id) = (run others).1.filter (·.1.id = id) := by
  intro run
  have hrun (calls : List TimedCall) (id : String) :=
    Prod.ext_iff.1 (filter_executeAll webhooks signer routePrefix hkeyed calls id)
  constructor
  · intro calls id
    -- on their own, the calls to an execution are the same calls to it
    have hown := hrun (calls.filter (·.id = id)) id
    rw [List.filter_filter] at hown
    simp only [Bool.and_self] at hown
    have hall : (run (calls.filter (·.id = id))).1.filter (·.1.id = id) =
        (run (calls.filter (·.id = id))).1 := by
      refine List.filter_eq_self.2 fun exchange hexchange ↦ ?_
      have hcall : exchange.1 ∈ calls.filter (·.id = id) := by
        rw [← map_fst_transcript _ (calls.filter (·.id = id)) store]
        exact List.mem_map_of_mem hexchange
      exact (List.mem_filter.1 hcall).2
    rw [← hall]
    exact ⟨(hrun calls id).2.trans hown.2.symm, (hrun calls id).1.trans hown.1.symm⟩
  · intro calls others hsame
    refine ⟨Table.eq_of_get?_eq fun id ↦ ?_, fun id ↦ ?_⟩
    · exact (hrun calls id).2.trans (hsame id ▸ (hrun others id).2.symm)
    · exact (hrun calls id).1.trans (hsame id ▸ (hrun others id).1.symm)

/-- Two executions that wait for a GET request each. -/
def twoWaiting : ExecutionStore :=
  (ExecutionStore.put .empty (.waitingIn "1" (.plain "Wait" WebhookCatalog.waitNodeType))).put
    (.waitingIn "2" (.plain "Wait" WebhookCatalog.waitNodeType))

/-- The first of two calls on an execution is accepted and the second refused, whether or not the
other execution is called before them, and it may as well be called between them. -/
theorem twoWaiting_independent :
    let run (calls : List TimedCall) :=
      executeAll (fun _ node ↦ WebhookCatalog.webhooks node) (.hmac [0]) "webhook-waiting" calls
        twoWaiting
    let first : TimedCall := ⟨.plain .get "1", 6⟩
    let second : TimedCall := ⟨.plain .get "1", 7⟩
    let other : TimedCall := ⟨.plain .get "2", 5⟩
    twoWaiting.KeyedBy Execution.id ∧
      (run [first, second]).1.map (·.2.isOk) = [true, false] ∧
      (run [other, first, second]).1.filter (·.1.id = "1") = (run [first, second]).1 ∧
      (run [other, first, second]).2.get? "1" = (run [first, second]).2.get? "1" ∧
      (run [first, other, second]).2 = (run [other, first, second]).2 := by
  intro run first second other
  have hkeyed : twoWaiting.KeyedBy Execution.id :=
    ExecutionStore.keyed_put (ExecutionStore.keyed_put (Table.keyedBy_empty _) _) _
  obtain ⟨hown, horder⟩ := executions_independent (fun _ node ↦ WebhookCatalog.webhooks node)
    (.hmac [0]) "webhook-waiting" hkeyed
  have hsame (id : String) : [first, other, second].filter (·.id = id) =
      [other, first, second].filter (·.id = id) := by
    have hfirst : first.id = "1" := rfl
    by_cases hid : "1" = id
    · subst hid
      rfl
    · simp [List.filter_cons, hfirst, hid]
  have hanswers := hown [other, first, second] "1"
  exact ⟨hkeyed, by decide +kernel, hanswers.2, hanswers.1, (horder _ _ hsame).1⟩

end WaitingWebhooks

end FlowGate
