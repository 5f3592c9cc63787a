import FlowGate.Proofs.Resume.Bundled

/-!
# Concurrent calls

Calls that run at the same time share one execution store, and each works on the copy of the
execution that it found at its lookup. `CallRace.Stage` says how far a call has come,
`Stage.advance` takes its next atomic step on the store, and `CallRace.run` lets any number of
calls take their steps in the order of a schedule. `run_uninterrupted` says that a call whose
steps follow each other directly does what `WaitingWebhooks.execute` does.
-/

namespace FlowGate

namespace CallRace

/-- How far a call has come, told by the step it takes next. -/
inductive Stage where
  /-- Looks the execution up and decides on the call from the copy it finds. -/
  | lookUp
  /-- Claims the execution: moves its stored status from waiting to running. -/
  | claim (resumption : Resumption)
  /-- Stores the running copy. -/
  | storeRunning (resumption : Resumption)
  /-- Answers the caller. -/
  | respond (resumption : Resumption)
  /-- Stores the completed copy and returns the answer. -/
  | storeCompleted (resumption : Resumption) (answer : WebhookResponse)
  /-- Nothing is left to do. -/
  | returned (result : Except WebhookError WebhookResponse)

/-- A call under way. -/
structure Caller where
  call : WebhookCall
  /-- The time at which the engine records the call. -/
  now : Int64
  stage : Stage

namespace Stage

/-- One atomic step of a call on the store. -/
def advance (webhooks : NodeWebhooks) (signer : UrlSigner) (call : WebhookCall) (now : Int64)
    (store : ExecutionStore) : Stage → Stage × ExecutionStore
  | .lookUp =>
      match resolveCall webhooks signer call (.ok (store.get? call.executionId)) with
      | .error error => (.returned (.error error), store)
      | .ok resumption => (.claim resumption, store)
  | .claim resumption =>
      match Engine.claim store resumption.execution.id with
      | .error error => (.returned (.error error), store)
      | .ok claimed => (.storeRunning resumption, claimed)
  | .storeRunning resumption => (.respond resumption, store.put (resumption.running now))
  | .respond resumption => (.storeCompleted resumption Engine.started, store)
  | .storeCompleted resumption answer =>
      (.returned (.ok answer), store.put (resumption.completed now))
  | .returned result => (.returned result, store)

/-- Whether the call has claimed its execution. -/
def hasClaimed : Stage → Bool
  | .lookUp | .claim _ | .returned (.error _) => false
  | .storeRunning _ | .respond _ | .storeCompleted _ _ | .returned (.ok _) => true

/-- A claim is never given up. -/
theorem hasClaimed_advance {webhooks : NodeWebhooks} {signer : UrlSigner} {call : WebhookCall}
    {now : Int64} {store : ExecutionStore} {stage : Stage} (h : stage.hasClaimed = true) :
    (stage.advance webhooks signer call now store).1.hasClaimed = true := by
  cases stage with
  | lookUp | claim => cases h
  | storeRunning | respond | storeCompleted => rfl
  | returned result => exact h

/-- The number of steps until a call is over. -/
def stepsLeft : Stage → Nat
  | .lookUp => 5
  | .claim _ => 4
  | .storeRunning _ => 3
  | .respond _ => 2
  | .storeCompleted _ _ => 1
  | .returned _ => 0

/-- Every step brings a call nearer to its end. -/
theorem stepsLeft_advance (webhooks : NodeWebhooks) (signer : UrlSigner) (call : WebhookCall)
    (now : Int64) (store : ExecutionStore) (stage : Stage) :
    (stage.advance webhooks signer call now store).1.stepsLeft ≤ stage.stepsLeft - 1 := by
  cases stage with
  | lookUp =>
      simp only [advance]
      split <;> simp [stepsLeft]
  | claim =>
      simp only [advance]
      split <;> simp [stepsLeft]
  | storeRunning | respond | storeCompleted | returned => simp [advance, stepsLeft]

theorem returned_of_stepsLeft {stage : Stage} (h : stage.stepsLeft = 0) :
    ∃ result, stage = .returned result := by
  cases stage with
  | returned result => exact ⟨result, rfl⟩
  | lookUp | claim | storeRunning | respond | storeCompleted => cases h

end Stage

/-- The call after its next step, and the store. -/
def Caller.advance (webhooks : NodeWebhooks) (signer : UrlSigner) (caller : Caller)
    (store : ExecutionStore) : Caller × ExecutionStore :=
  let (stage, store) := caller.stage.advance webhooks signer caller.call caller.now store
  ({ caller with stage }, store)

end CallRace

/-- A store and the calls under way on it. -/
structure CallRace where
  store : ExecutionStore
  callers : List CallRace.Caller

namespace CallRace

/-- Calls, each with the time of its record, none of which has taken a step. -/
def start (store : ExecutionStore) (calls : List (WebhookCall × Int64)) : CallRace :=
  ⟨store, calls.map fun (call, now) ↦ ⟨call, now, .lookUp⟩⟩

variable (webhooks : NodeWebhooks) (signer : UrlSigner)

/-- One of the calls takes its next step; without such a call nothing happens. -/
def step (race : CallRace) (index : Nat) : CallRace :=
  match race.callers[index]? with
  | none => race
  | some caller =>
      let (caller, store) := caller.advance webhooks signer race.store
      ⟨store, race.callers.set index caller⟩

/-- The calls take steps in the order of a schedule. -/
def run (race : CallRace) (schedule : List Nat) : CallRace :=
  schedule.foldl (step webhooks signer) race

variable {webhooks : NodeWebhooks} {signer : UrlSigner} {race : CallRace} {caller : Caller}
  {index : Nat}

theorem step_of_none (h : race.callers[index]? = none) :
    race.step webhooks signer index = race := by
  simp only [step, h]

theorem step_of_some (h : race.callers[index]? = some caller) :
    race.step webhooks signer index =
      ⟨(caller.advance webhooks signer race.store).2,
        race.callers.set index (caller.advance webhooks signer race.store).1⟩ := by
  simp only [step, h]

/-- A call after its own step. -/
theorem getElem?_step_self (h : race.callers[index]? = some caller) :
    (race.step webhooks signer index).callers[index]? =
      some (caller.advance webhooks signer race.store).1 := by
  obtain ⟨hlt, _⟩ := List.getElem?_eq_some_iff.1 h
  rw [step_of_some h]
  exact List.getElem?_set_self hlt

/-- A call after the step of another one. -/
theorem getElem?_step_ne {other : Nat} (h : other ≠ index) :
    (race.step webhooks signer index).callers[other]? = race.callers[other]? := by
  cases hcaller : race.callers[index]? with
  | none => rw [step_of_none hcaller]
  | some caller =>
      rw [step_of_some hcaller]
      exact List.getElem?_set_ne h.symm

/-- A step of a call that was put in the place of another. -/
theorem step_set (h : race.callers[index]? = some caller) (store : ExecutionStore)
    (other : Caller) :
    (⟨store, race.callers.set index other⟩ : CallRace).step webhooks signer index =
      ⟨(other.advance webhooks signer store).2,
        race.callers.set index (other.advance webhooks signer store).1⟩ := by
  obtain ⟨hlt, _⟩ := List.getElem?_eq_some_iff.1 h
  rw [step_of_some (List.getElem?_set_self hlt), List.set_set]

@[simp]
theorem run_nil (race : CallRace) : race.run webhooks signer [] = race := rfl

theorem run_cons (race : CallRace) (index : Nat) (schedule : List Nat) :
    race.run webhooks signer (index :: schedule) =
      (race.step webhooks signer index).run webhooks signer schedule := rfl

/-- A schedule can be followed in two parts. -/
theorem run_append (race : CallRace) (first second : List Nat) :
    race.run webhooks signer (first ++ second) =
      (race.run webhooks signer first).run webhooks signer second :=
  List.foldl_append

/-- A call that a schedule gives enough steps is over after it, whatever the other calls do. -/
theorem stepsLeft_run (webhooks : NodeWebhooks) (signer : UrlSigner)
    (hcaller : race.callers[index]? = some caller) (schedule : List Nat) :
    ∃ other, (race.run webhooks signer schedule).callers[index]? = some other ∧
      other.stage.stepsLeft ≤ caller.stage.stepsLeft - schedule.count index := by
  induction schedule generalizing race caller with
  | nil => exact ⟨caller, hcaller, Nat.le_refl _⟩
  | cons moved schedule ih =>
      rw [run_cons]
      by_cases heq : index = moved
      · subst heq
        have hstep := Stage.stepsLeft_advance webhooks signer caller.call caller.now race.store
          caller.stage
        obtain ⟨other, hother, hle⟩ := ih (getElem?_step_self hcaller)
        refine ⟨other, hother, Nat.le_trans hle ?_⟩
        rw [List.count_cons_self]
        simp only [Caller.advance]
        omega
      · obtain ⟨other, hother, hle⟩ := ih ((getElem?_step_ne heq).trans hcaller)
        exact ⟨other, hother, by rwa [List.count_cons_of_ne (Ne.symm heq)]⟩

/-- Five steps of a call that directly follow each other answer it and change the store as
`execute` does. -/
theorem run_uninterrupted {routePrefix : String} (hcaller : race.callers[index]? = some caller)
    (hstage : caller.stage = .lookUp) :
    race.run webhooks signer (List.replicate 5 index) =
      let (result, store) :=
        ((WaitingWebhooks.bundled webhooks signer routePrefix caller.now).execute
          caller.call).run race.store
      ⟨store, race.callers.set index { caller with stage := .returned result }⟩ := by
  obtain ⟨call, now, stage⟩ := caller
  subst hstage
  -- a call that is refused early does nothing in the steps that are left
  simp only [List.replicate, run_cons, run_nil, step_of_some hcaller, step_set hcaller,
    WaitingWebhooks.run_execute_bundled, Caller.advance]
  cases hresolve : resolveCall webhooks signer call (.ok (race.store.get? call.executionId)) with
  | error error => simp only [Stage.advance, hresolve]
  | ok resumption =>
      cases hclaim : Engine.claim race.store resumption.execution.id with
      | error error => simp only [Stage.advance, hresolve, hclaim]
      | ok claimed => simp only [Stage.advance, hresolve, hclaim]

end CallRace

end FlowGate
