import FlowGate.Proofs.Server.Answers
import FlowGate.Proofs.Server.Exclusivity

/-!
# Requests about workflows are atomic

A request that activates or deactivates a workflow writes two stores, after all checks.
`WorkflowAction.Changes` says what it writes, `WorkflowAction.outcome_cases` that an action has
either done this or nothing, and `workflow_requests_atomic` that the status of the answer tells
which: 200 for the first, any other for the second.
-/

namespace FlowGate

open Server

/-- What a workflow is besides its activation. -/
def Workflow.content (workflow : Workflow) : String × String × List Node × Table Value :=
  (workflow.id, workflow.name, workflow.nodes, workflow.pinData)

namespace Stores

/-- `stores.Marks id version after` says the stores `after` differ from `stores` only in the
activation of the workflow with the id, which is the version in the newer form, and in its
registration, which it has exactly if there is a version. -/
structure Marks (stores : Stores) (id : String) (version : Option String) (after : Stores) :
    Prop where
  workflow : ∃ workflow, stores.workflows.get? id = some workflow ∧
    after.workflows.get? id = some { workflow with activation := .versioned version }
  otherWorkflows : ∀ name, name ≠ id → after.workflows.get? name = stores.workflows.get? name
  registered : after.Registers id ↔ version.isSome
  otherRegistered : ∀ name, name ≠ id → (after.Registers name ↔ stores.Registers name)
  executions : after.executions = stores.executions

/-- `stores.KeepsContent after` says the stores `after` have the executions of `stores` and the
same workflows up to activations. -/
structure KeepsContent (stores after : Stores) : Prop where
  executions : after.executions = stores.executions
  workflows : ∀ id, (after.workflows.get? id).map Workflow.content =
    (stores.workflows.get? id).map Workflow.content

variable {stores after : Stores} {id : String} {version : Option String}

theorem keepsContent_refl (stores : Stores) : stores.KeepsContent stores := ⟨rfl, fun _ ↦ rfl⟩

theorem Marks.keepsContent (h : stores.Marks id version after) : stores.KeepsContent after where
  executions := h.executions
  workflows name := by
    by_cases hname : name = id
    · obtain ⟨workflow, hbefore, hafter⟩ := h.workflow
      rw [hname, hbefore, hafter]
      rfl
    · rw [h.otherWorkflows name hname]

/-- Storing a workflow with a new activation, and registering it or not, marks it. -/
theorem marks_insert {workflow : Workflow} {active : ActiveRegistry}
    (hstored : stores.workflows.get? id = some workflow)
    (hactive : ∀ name, active.contains name =
      if name = id then version.isSome else stores.active.contains name) :
    stores.Marks id version { stores with
      workflows := stores.workflows.insert id { workflow with activation := .versioned version }
      active } where
  workflow := ⟨workflow, hstored, by rw [Table.get?_insert, if_pos rfl]⟩
  otherWorkflows name hname := by rw [Table.get?_insert, if_neg hname]
  registered := by rw [Registers, hactive, if_pos rfl]
  otherRegistered name hname := by rw [Registers, Registers, hactive, if_neg hname]
  executions := rfl

end Stores

namespace Server

variable {stores after : Stores} {id : String}

/-- `action.Changes version stores id after` says `after` is what the action, carried out for the
workflow with the id, makes of the stores: an activation publishes the version, a deactivation
withdraws the version there is, and a test run changes nothing. -/
def WorkflowAction.Changes (action : WorkflowAction) (version : String) (stores : Stores)
    (id : String) (after : Stores) : Prop :=
  match action with
  | .activate => stores.Marks id (some version) after
  | .deactivate => stores.Marks id none after
  | .testRun => after = stores

theorem WorkflowAction.Changes.keepsContent {action : WorkflowAction} {version : String}
    (h : action.Changes version stores id after) : stores.KeepsContent after := by
  cases action with
  | activate => exact Stores.Marks.keepsContent h
  | deactivate => exact Stores.Marks.keepsContent h
  | testRun => exact h ▸ stores.keepsContent_refl

/-- An action fails and changes nothing, or it succeeds and has made its change. -/
theorem WorkflowAction.outcome_cases (action : WorkflowAction) (arrival : Arrival) (id : String)
    (body : List UInt8) (stores : Stores) :
    (∃ failure, (action.run arrival id body).outcome stores = (.error failure, stores)) ∨
      ∃ envelope after, (action.run arrival id body).outcome stores = (.ok envelope, after) ∧
        action.Changes arrival.versionId stores id after := by
  rcases hrun : (action.run arrival id body).outcome stores with ⟨failure | envelope, after⟩
  · rw [stores_eq_of_error hrun]
    exact .inl ⟨failure, rfl⟩
  refine .inr ⟨envelope, after, rfl, ?_⟩
  cases action with
  | activate =>
      rw [run, outcome_activate] at hrun
      split at hrun
      · cases hrun
      next workflow hstored =>
      split at hrun
      · cases hrun
      cases hrun
      refine Stores.marks_insert hstored fun name ↦ ?_
      simp only [Table.contains, Table.get?_insert]
      split <;> rfl
  | deactivate =>
      rw [run, outcome_deactivate] at hrun
      split at hrun
      · cases hrun
      next workflow hstored =>
      cases hrun
      refine Stores.marks_insert hstored fun name ↦ ?_
      simp only [Table.contains, Table.get?_erase]
      split <;> rfl
  | testRun => exact (congrArg Prod.snd hrun).symm.trans (observes_testRun arrival id body stores)

variable {server : Server} {arrival : Arrival} {request : Http.Request}
  {parameters : Http.Parameters} {action : WorkflowAction}

/-- `action.Settles arrival parameters stores response after` says the response to a request for the
action has the status 200 if the action has made its change for the workflow that the parameters
name, and another status if nothing has changed. -/
def WorkflowAction.Settles (action : WorkflowAction) (arrival : Arrival)
    (parameters : Http.Parameters) (stores : Stores) (response : Http.Response) (after : Stores) :
    Prop :=
  (response.status ≠ 200 ∧ after = stores) ∨
    response.status = 200 ∧ ∃ read, Http.readParameters "id" none parameters = .ok read ∧
      action.Changes arrival.versionId stores read.1 after

/-- The response to the result of an action tells whether the action was carried out. -/
theorem respond_settles (action : WorkflowAction) (arrival : Arrival) (body : List UInt8)
    (stores : Stores) {read : String × Option String}
    (hread : Http.readParameters "id" none parameters = .ok read) :
    ∃ response after,
      (respond arrival (action.run arrival read.1 body)).run stores = (response, after) ∧
        action.Settles arrival parameters stores response after := by
  rw [run_respond]
  rcases action.outcome_cases arrival read.1 body stores with
    ⟨failure, hrun⟩ | ⟨envelope, after, hrun, hchanges⟩
  · rw [hrun]
    exact ⟨_, _, rfl, .inl ⟨status_ne_ok failure, rfl⟩⟩
  · rw [hrun]
    exact ⟨_, _, rfl, .inr ⟨rfl, read, hread, hchanges⟩⟩

/-- So does the answer to a request on the route of the action, with any method and body. -/
theorem answerAction_settles (action : WorkflowAction) (arrival : Arrival) (request : Http.Request)
    (parameters : Http.Parameters) (stores : Stores) :
    ∃ response after, (answerAction action arrival request parameters).run stores =
        (response, after) ∧ action.Settles arrival parameters stores response after := by
  rcases run_answerAction_cases action arrival request parameters stores with
    ⟨response, hrun, hstatus⟩ | ⟨read, headers, hread, hrun⟩
  · exact ⟨response, stores, hrun, .inl ⟨hstatus, rfl⟩⟩
  · obtain ⟨response, after, hrespond, hsettles⟩ :=
      respond_settles action arrival request.body stores hread
    rw [hrun, hrespond]
    exact ⟨_, _, rfl, hsettles⟩

/-- A request on the route of an action on a workflow is atomic. If its answer has another status
than 200, the stores are as before. With the status 200 the action has made its change for the
workflow that the path names: an activation marks it as published with the version of the request
and registers it, a deactivation withdraws its version and registration, and a test run changes
nothing, whatever its answer. Executions and the content of workflows never change. -/
theorem workflow_requests_atomic (server : Server) (arrival : Arrival) (request : Http.Request)
    (stores : Stores) {action : WorkflowAction} {parameters : Http.Parameters}
    (hroute : Http.findRoute? server.routes request.target.path =
      some (.workflow action, parameters)) :
    ∃ response after, (server.handle arrival request).run stores = (response, after) ∧
      (response.status ≠ 200 → after = stores) ∧
      (response.status = 200 → ∃ read, Http.readParameters "id" none parameters = .ok read ∧
        action.Changes arrival.versionId stores read.1 after) ∧
      (action = .testRun → after = stores) ∧
      stores.KeepsContent after := by
  obtain ⟨response, after, hrun, hsettles⟩ :=
    answerAction_settles action arrival request parameters stores
  obtain ⟨answer, hanswer, hstatus, _⟩ := run_handle_of_run_answerAt hroute hrun
  refine ⟨answer, after, hanswer, ?_⟩
  rw [hstatus]
  rcases hsettles with ⟨hrefused, rfl⟩ | ⟨hok, read, hread, hchanges⟩
  · exact ⟨fun _ ↦ rfl, fun hok ↦ absurd hok hrefused, fun _ ↦ rfl, after.keepsContent_refl⟩
  · refine ⟨fun hne ↦ absurd hok hne, fun _ ↦ ⟨read, hread, hchanges⟩, ?_, hchanges.keepsContent⟩
    rintro rfl
    exact hchanges

/-- Of two workflows that contend the inactive one cannot be activated, which changes nothing. The
active one can be deactivated, which marks it, and then the other one activated. -/
theorem twoConsumers_atomic :
    let server : Server := ⟨⟨(· ++ "!"), fun _ _ ↦ false⟩, "webhook-waiting"⟩
    let arrival : Arrival := ⟨0, "", "", "v", 0⟩
    let activation : Http.Request := ⟨"POST", .parse "/api/v1/workflows/2/activate", [], []⟩
    let deactivation : Http.Request := ⟨"POST", .parse "/api/v1/workflows/1/deactivate", [], []⟩
    let stores := Stores.twoConsumers
    (∃ response, (server.handle arrival activation).run stores = (response, stores) ∧
        response.status = 409) ∧
      ∃ response after, (server.handle arrival deactivation).run stores = (response, after) ∧
        response.status = 200 ∧ stores.Marks "1" none after ∧
        ∃ response last, (server.handle arrival activation).run after = (response, last) ∧
          response.status = 200 ∧ after.Marks "2" (some "v") last := by
  intro server arrival activation deactivation stores
  have hactivate : Http.findRoute? server.routes activation.target.path =
      some (.workflow .activate, [("id", "2")]) := by decide
  have hdeactivate : Http.findRoute? server.routes deactivation.target.path =
      some (.workflow .deactivate, [("id", "1")]) := by decide
  refine ⟨?refused, ?accepted⟩
  case refused =>
    obtain ⟨response, after, hrun, hrefused, _⟩ :=
      workflow_requests_atomic server arrival activation stores hactivate
    have hstatus : response.status = 409 := by
      have hanswer : ((server.handle arrival activation).run stores).1.status = 409 := by
        decide +kernel
      rwa [hrun] at hanswer
    have hafter : after = stores := hrefused (by rw [hstatus]; decide)
    exact ⟨response, hafter ▸ hrun, hstatus⟩
  case accepted =>
    obtain ⟨response, after, hrun, _, hchanges, _⟩ :=
      workflow_requests_atomic server arrival deactivation stores hdeactivate
    obtain ⟨last, final, hlast, _, hlastChanges, _⟩ :=
      workflow_requests_atomic server arrival activation after hactivate
    have hafter : after = ((server.handle arrival deactivation).run stores).2 := by rw [hrun]
    have hstatus : response.status = 200 := by
      have hanswer : ((server.handle arrival deactivation).run stores).1.status = 200 := by
        decide +kernel
      rwa [hrun] at hanswer
    have hlastStatus : last.status = 200 := by
      have hanswer : ((server.handle arrival activation).run
          ((server.handle arrival deactivation).run stores).2).1.status = 200 := by
        decide +kernel
      rwa [← hafter, hlast] at hanswer
    obtain ⟨_, ⟨⟩, hmarks⟩ := hchanges hstatus
    obtain ⟨_, ⟨⟩, hlastMarks⟩ := hlastChanges hlastStatus
    exact ⟨response, after, hrun, hstatus, hmarks, last, final, hlast, hlastStatus, hlastMarks⟩

end Server

end FlowGate
