import FlowGate.Proofs.Trigger.Contention
import FlowGate.Server.Workflows

/-!
# What the requests about workflows do

`outcome_activate` and `outcome_deactivate` give the answer to a request and the stores afterwards
in one equation, and `observes_testRun` says a test run changes nothing. `Stores.after` is the
stores after a request, and `Stores.after_effect` says they are what `WorkflowRequest.Effect`
lists.
-/

namespace FlowGate

open ExclusivityRegistry

namespace Handler

variable {α β : Type}

/-- The outcome of a handler on some stores, with the stores afterwards. -/
def outcome (handler : Handler α) (stores : Stores) : Except Failure α × Stores :=
  handler.run.run stores

/-- A handler goes on with what it has got, or fails at once. -/
theorem outcome_bind (handler : Handler α) (next : α → Handler β) (stores : Stores) :
    (handler >>= next).outcome stores =
      match handler.outcome stores with
      | (.ok result, stores) => (next result).outcome stores
      | (.error failure, stores) => (.error failure, stores) := by
  unfold outcome ExceptT.run StateT.run
  simp only [bind, ExceptT.bind, ExceptT.mk, StateT.bind]
  rcases handler stores with ⟨_ | _, _⟩ <;> rfl

@[simp]
theorem outcome_pure (result : α) (stores : Stores) :
    (pure result : Handler α).outcome stores = (.ok result, stores) := rfl

@[simp]
theorem outcome_get (stores : Stores) :
    (get : Handler Stores).outcome stores = (.ok stores, stores) := rfl

@[simp]
theorem outcome_set (next stores : Stores) :
    (set next : Handler PUnit).outcome stores = (.ok ⟨⟩, next) := rfl

@[simp]
theorem outcome_modify (change : Stores → Stores) (stores : Stores) :
    (modify change : Handler PUnit).outcome stores = (.ok ⟨⟩, change stores) := rfl

@[simp]
theorem outcome_ofExcept (result : Except Failure α) (stores : Stores) :
    (MonadExcept.ofExcept result : Handler α).outcome stores = (result, stores) := by
  cases result <;> rfl

/-- `handler.Observes` says the handler leaves all stores as they are. -/
def Observes (handler : Handler α) : Prop := ∀ stores, (handler.outcome stores).2 = stores

theorem Observes.bind {handler : Handler α} {next : α → Handler β} (h : handler.Observes)
    (hnext : ∀ result, (next result).Observes) : (handler >>= next).Observes := by
  intro stores
  have hstores := h stores
  rw [outcome_bind]
  rcases hhandler : handler.outcome stores with ⟨failure | result, between⟩
  · rwa [hhandler] at hstores
  · rw [hhandler] at hstores
    exact (hnext result between).trans hstores

theorem observes_ofExcept (result : Except Failure α) :
    (MonadExcept.ofExcept result : Handler α).Observes := fun stores ↦ by
  rw [outcome_ofExcept]

end Handler

namespace Server

variable {stores : Stores} {id : String}

/-- A check of triggers fails as the check does. -/
theorem outcome_check (result : StateM Stores (Except TriggerError Unit)) (stores : Stores) :
    (check result).outcome stores =
      match result.run stores with
      | (.error error, stores) => (.error (.trigger error), stores)
      | (.ok _, stores) => (.ok (), stores) := by
  unfold check Handler.outcome ExceptT.adapt
  simp only [ExceptT.run, ExceptT.mk, StateT.run, Functor.map, StateT.map, bind]
  rcases result stores with ⟨_ | _, _⟩ <;> rfl

/-- A check without claimants succeeds. -/
theorem ensureNoConflict_of_isEmpty {registry : ExclusivityRegistry} {nodes : List Node}
    {others : List WorkflowSummary} (h : nodes.isEmpty = true ∨ others.isEmpty = true) :
    registry.ensureNoConflict nodes others = .ok () := by
  rw [ensureNoConflict_eq_ok_iff]
  intro node hnode
  rcases h with h | h
  · rw [List.isEmpty_iff.1 h] at hnode
    cases hnode
  · rw [List.isEmpty_iff.1 h, conflictOf?_eq_none_iff]
    exact fun _ _ ↦ rfl

/-- No workflow is found when none is asked for. -/
theorem find_byIds_nil (store : WorkflowStore) : store.find (.byIds []) = [] := by
  simp [WorkflowStore.find, WorkflowFilter.accepts, WorkflowFilter.byIds]

/-- The check of triggers over the stores, with any types registered as exclusive. That of a server
has the default ones. -/
def triggersWith (registry : ExclusivityRegistry) : TriggerValidation (StateM Stores) :=
  { triggers with registry }

/-- Before its activation a workflow is compared with the other registered ones; the stores stay as
they are. -/
theorem run_validateActivation_with (registry : ExclusivityRegistry) (workflow : Workflow)
    (stores : Stores) :
    ((triggersWith registry).validateActivation workflow).run stores =
      (registry.ensureNoConflict (registry.claimants workflow none)
        (stores.workflows.find (.byIds (stores.active.ids.filter (· ≠ workflow.id)))), stores) := by
  have hregistry : (triggersWith registry).registry = registry := rfl
  simp only [TriggerValidation.validateActivation, hregistry]
  -- without claimants or others nothing is asked for, and there is no conflict to find
  by_cases hclaimants : (registry.claimants workflow none).isEmpty = true
  · rw [if_pos hclaimants, ensureNoConflict_of_isEmpty (.inl hclaimants)]
    rfl
  rw [if_neg hclaimants]
  show (if (stores.active.ids.filter (· ≠ workflow.id)).isEmpty = true then
      (pure (.ok ()) : StateM Stores (Except TriggerError Unit))
    else (triggersWith registry).compareWith (registry.claimants workflow none)
      (.byIds (stores.active.ids.filter (· ≠ workflow.id)))) stores = _
  by_cases hothers : (stores.active.ids.filter (· ≠ workflow.id)).isEmpty = true
  · rw [if_pos hothers, List.isEmpty_iff.1 hothers, find_byIds_nil,
      ensureNoConflict_of_isEmpty (.inr rfl)]
    rfl
  · rw [if_neg hothers]
    rfl

theorem run_validateActivation (workflow : Workflow) (stores : Stores) :
    (triggers.validateActivation workflow).run stores =
      (defaults.ensureNoConflict (defaults.claimants workflow none)
        (stores.workflows.find (.byIds (stores.active.ids.filter (· ≠ workflow.id)))), stores) :=
  run_validateActivation_with defaults workflow stores

/-- An activation is refused for an unknown workflow and for one in conflict; else the workflow is
published and registered. -/
theorem outcome_activate (arrival : Arrival) (id : String) (stores : Stores) :
    (activate arrival id).outcome stores =
      match stores.workflows.get? id with
      | none => (.error (.notFound s!"Workflow '{id}' not found"), stores)
      | some workflow =>
          match defaults.ensureNoConflict (defaults.claimants workflow none)
            (stores.workflows.find (.byIds (stores.active.ids.filter (· ≠ workflow.id)))) with
          | .error error => (.error (.trigger error), stores)
          | .ok () =>
              let published := { workflow with activation := .versioned (some arrival.versionId) }
              (.ok (activated arrival id),
                { stores with
                  workflows := stores.workflows.insert id published
                  active := stores.active.insert id () }) := by
  simp only [activate, Handler.outcome_bind, Handler.outcome_get, Handler.outcome_ofExcept,
    Stores.workflow]
  cases hstored : stores.workflows.get? id with
  | none => rfl
  | some workflow =>
      simp only [outcome_check, run_validateActivation]
      cases defaults.ensureNoConflict (defaults.claimants workflow none) _ with
      | error error => rfl
      | ok _ =>
          simp [Stores.publish, WorkflowStore.setActiveVersion, hstored,
            Stores.register, ActiveRegistry.add]

/-- A deactivation is refused for an unknown workflow only; else the workflow's version is withdrawn
and its registration ends. -/
theorem outcome_deactivate (arrival : Arrival) (id : String) (stores : Stores) :
    (deactivate arrival id).outcome stores =
      match stores.workflows.get? id with
      | none => (.error (.notFound s!"Workflow '{id}' not found"), stores)
      | some workflow =>
          let withdrawn := { workflow with activation := .versioned none }
          (.ok (deactivated arrival id),
            { stores with
              workflows := stores.workflows.insert id withdrawn
              active := stores.active.erase id }) := by
  simp only [deactivate, Handler.outcome_bind, Handler.outcome_get, Handler.outcome_ofExcept,
    Stores.workflow]
  cases hstored : stores.workflows.get? id with
  | none => rfl
  | some workflow =>
      simp [Stores.publish, WorkflowStore.setActiveVersion, hstored, Stores.unregister,
        ActiveRegistry.remove]

/-- A check that leaves the stores as they are does so as a handler. -/
theorem observes_check {result : StateM Stores (Except TriggerError Unit)}
    (h : ∀ stores, (result.run stores).2 = stores) : (check result).Observes := by
  intro stores
  have hstores := h stores
  rw [outcome_check]
  rcases hrun : result.run stores with ⟨_ | _, after⟩
  · rwa [hrun] at hstores
  · rwa [hrun] at hstores

/-- A check of a manual run leaves the stores as they are. -/
theorem run_validateManualRun_stores (workflow : Workflow) (isActive : Bool)
    (trigger : Option String) (stores : Stores) :
    ((triggers.validateManualRun workflow isActive trigger).run stores).2 = stores := by
  unfold TriggerValidation.validateManualRun
  split
  · rfl
  · cases isActive <;> rfl

/-- A test run leaves the stores as they are. -/
theorem observes_testRun (arrival : Arrival) (id : String) (body : List UInt8) :
    (testRun arrival id body).Observes := by
  refine (Handler.observes_ofExcept _).bind fun trigger ↦ ?_
  refine Handler.Observes.bind (fun _ ↦ rfl) fun stores ↦ ?_
  refine (Handler.observes_ofExcept _).bind fun workflow ↦ ?_
  have hcheck : (check (triggers.validateManualRun workflow workflow.isActive trigger) >>=
      fun _ ↦ (pure (validated arrival id trigger) : Handler Envelope)).Observes :=
    (observes_check (run_validateManualRun_stores workflow workflow.isActive trigger)).bind
      fun _ _ ↦ rfl
  -- a named trigger that is not in the workflow is refused before the check
  cases trigger with
  | none => exact hcheck
  | some name =>
      show (if (workflow.node? name).isNone = true then _ else _ : Handler Envelope).Observes
      split
      · exact fun _ ↦ rfl
      · exact hcheck

/-- An action that fails leaves the stores as they are. -/
theorem WorkflowAction.stores_eq_of_error {action : WorkflowAction} {arrival : Arrival}
    {body : List UInt8} {failure : Failure} {after : Stores}
    (h : (action.run arrival id body).outcome stores = (.error failure, after)) :
    after = stores := by
  cases action with
  | activate =>
      rw [run, outcome_activate] at h
      split at h
      · exact (Prod.ext_iff.1 h).2.symm
      split at h
      · exact (Prod.ext_iff.1 h).2.symm
      · cases h
  | deactivate =>
      rw [run, outcome_deactivate] at h
      split at h
      · exact (Prod.ext_iff.1 h).2.symm
      · cases h
  | testRun => exact (congrArg Prod.snd h).symm.trans (observes_testRun arrival id body stores)

/-- The response to the result of a handler: the envelope with the status 200, or the report of the
failure. -/
theorem run_respond (arrival : Arrival) (handler : Handler Envelope) (stores : Stores) :
    (respond arrival handler).run stores =
      match handler.outcome stores with
      | (.ok envelope, after) => (.json 200 envelope.toJson, after)
      | (.error failure, after) =>
          (failure.response arrival.requestId arrival.timestamp, after) := by
  simp only [respond, bind, StateT.bind, StateT.run, Handler.outcome, ExceptT.run]
  rcases handler stores with ⟨_ | _, _⟩ <;> rfl

/-- With a known method the answer gets the headers for other origins; a preflight is not even
handled. -/
theorem run_withFallbackHeaders {request : Http.Request} {method : Method}
    (hmethod : Method.parse request.method = .ok method) (respond : StateM Stores Http.Response)
    (stores : Stores) :
    (withFallbackHeaders request respond).run stores =
      let headers := Cors.applyFallbackHeaders (originRequest request method)
        (some advertisedMethods) .empty
      if method = .options then ((Http.Response.empty 204).withHeaders headers, stores)
      else
        let (response, after) := respond.run stores
        (response.withHeaders headers, after) := by
  simp only [withFallbackHeaders, hmethod]
  cases method <;> rfl

/-- Without a known method the answer is left as it is. -/
theorem withFallbackHeaders_of_unknown {request : Http.Request} {error : UnsupportedMethod}
    {respond : StateM Stores Http.Response}
    (hmethod : Method.parse request.method = .error error) :
    withFallbackHeaders request respond = respond := by
  simp only [withFallbackHeaders, hmethod]

/-- A request with a method that the route does not have is refused, or answered as a preflight. -/
theorem run_withFallbackHeaders_refusal (request : Http.Request) (stores : Stores) :
    ∃ response, (withFallbackHeaders request (pure (.empty 405))).run stores = (response, stores) ∧
      response.status ≠ 200 := by
  cases hmethod : Method.parse request.method with
  | error error =>
      rw [withFallbackHeaders_of_unknown hmethod]
      exact ⟨_, rfl, (by decide : (405 : UInt16) ≠ 200)⟩
  | ok method =>
      rw [run_withFallbackHeaders hmethod]
      by_cases hoptions : method = .options
      · rw [if_pos hoptions]
        exact ⟨_, rfl, (by decide : (204 : UInt16) ≠ 200)⟩
      · rw [if_neg hoptions]
        exact ⟨_, rfl, (by decide : (405 : UInt16) ≠ 200)⟩

/-- A request on the route of an action is refused, or the action is carried out for the workflow
that the parameters name. -/
theorem run_answerAction_cases (action : WorkflowAction) (arrival : Arrival)
    (request : Http.Request) (parameters : Http.Parameters) (stores : Stores) :
    (∃ response, (answerAction action arrival request parameters).run stores =
        (response, stores) ∧ response.status ≠ 200) ∨
      ∃ read headers, Http.readParameters "id" none parameters = .ok read ∧
        (answerAction action arrival request parameters).run stores =
          let (response, after) :=
            (respond arrival (action.run arrival read.1 request.body)).run stores
          (response.withHeaders headers, after) := by
  unfold answerAction
  split
  next hpost =>
    have hmethod : Method.parse request.method = .ok .post := by
      rw [hpost]
      rfl
    split
    · rw [run_withFallbackHeaders hmethod]
      exact .inl ⟨_, rfl, (by decide : (400 : UInt16) ≠ 200)⟩
    next id suffix hread =>
    split
    · rw [run_withFallbackHeaders hmethod]
      exact .inl ⟨_, rfl, (by decide : (413 : UInt16) ≠ 200)⟩
    · rw [run_withFallbackHeaders hmethod]
      exact .inr ⟨_, _, hread, rfl⟩
  · obtain ⟨response, hrun, hstatus⟩ := run_withFallbackHeaders_refusal request stores
    refine .inl ⟨response.withHeader Http.Response.allowHeader "POST", ?_, hstatus⟩
    rw [StateT.run_bind, hrun]
    rfl

/-- A request about a workflow. -/
structure WorkflowRequest where
  action : WorkflowAction
  arrival : Arrival
  id : String
  body : List UInt8

/-- What a request about the workflow with an id can make of the stores. -/
inductive WorkflowRequest.Effect (stores : Stores) (id : String) : Stores → Prop where
  | unchanged : Effect stores id stores
  /-- A stored workflow is published and registered. It contends with no other registered and
  active one. -/
  | activated (workflow : Workflow) (version : String)
      (hstored : stores.workflows.get? id = some workflow)
      (hfree : ∀ name other, stores.workflows.get? name = some other →
        stores.active.contains name = true → name ≠ workflow.id → other.isActive = true →
          ¬ workflow.Contends defaults other) :
      Effect stores id { stores with
        workflows := stores.workflows.insert id
          { workflow with activation := .versioned (some version) }
        active := stores.active.insert id () }
  /-- The version of a stored workflow is withdrawn and its registration ends. -/
  | deactivated (workflow : Workflow) (hstored : stores.workflows.get? id = some workflow) :
      Effect stores id { stores with
        workflows := stores.workflows.insert id { workflow with activation := .versioned none }
        active := stores.active.erase id }

end Server

open Server

namespace Stores

/-- The stores after a request about a workflow. -/
def after (stores : Stores) (request : WorkflowRequest) : Stores :=
  ((request.action.run request.arrival request.id request.body).outcome stores).2

/-- The stores after requests about workflows, one after the other. -/
def afterAll (stores : Stores) (requests : List WorkflowRequest) : Stores :=
  requests.foldl after stores

/-- Every request has one of the listed effects. -/
theorem after_effect (stores : Stores) (request : WorkflowRequest) :
    WorkflowRequest.Effect stores request.id (stores.after request) := by
  obtain ⟨action, arrival, id, body⟩ := request
  unfold after
  cases action with
  | activate =>
      show WorkflowRequest.Effect stores id ((activate arrival id).outcome stores).2
      rw [outcome_activate]
      cases hstored : stores.workflows.get? id with
      | none => exact .unchanged
      | some workflow =>
          cases hcheck : defaults.ensureNoConflict (defaults.claimants workflow none)
              (stores.workflows.find
                (.byIds (stores.active.ids.filter (· ≠ workflow.id)))) with
          | error error =>
              simp only [hcheck]
              exact .unchanged
          | ok _ =>
              simp only [hcheck]
              -- the check has seen every other registered workflow
              refine .activated workflow arrival.versionId hstored fun name other hother hregistered
                hname ↦ ensureNoConflict_find_eq_ok_iff.1 hcheck name other hother ?_
              have hlisted := ActiveRegistry.mem_ids_iff.2 hregistered
              simp [WorkflowFilter.accepts, WorkflowFilter.byIds, hlisted, hname]
  | deactivate =>
      show WorkflowRequest.Effect stores id ((deactivate arrival id).outcome stores).2
      rw [outcome_deactivate]
      cases hstored : stores.workflows.get? id with
      | none => exact .unchanged
      | some workflow => exact .deactivated workflow hstored
  | testRun =>
      show WorkflowRequest.Effect stores id ((testRun arrival id body).outcome stores).2
      rw [observes_testRun arrival id body stores]
      exact .unchanged

/-- Putting the outcome of a handler into a response does not touch the stores. -/
theorem respond_stores (arrival : Arrival) (handler : Handler Envelope) (stores : Stores) :
    ((respond arrival handler).run stores).2 = (handler.outcome stores).2 := by
  rw [run_respond]
  rcases handler.outcome stores with ⟨_ | _, _⟩ <;> rfl

/-- The interface passes a request on to the handler of its action, or changes nothing. -/
theorem answerAction_stores (action : WorkflowAction) (arrival : Arrival) (request : Http.Request)
    (parameters : Http.Parameters) (stores : Stores) :
    ((answerAction action arrival request parameters).run stores).2 = stores ∨
      ∃ id, ((answerAction action arrival request parameters).run stores).2 =
        stores.after ⟨action, arrival, id, request.body⟩ := by
  rcases run_answerAction_cases action arrival request parameters stores with
    ⟨response, hrun, _⟩ | ⟨read, headers, _, hrun⟩
  · rw [hrun]
    exact .inl rfl
  · rw [hrun]
    exact .inr ⟨read.1, respond_stores arrival (action.run arrival read.1 request.body) stores⟩

end Stores

end FlowGate
