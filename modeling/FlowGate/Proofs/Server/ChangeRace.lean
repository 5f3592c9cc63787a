import FlowGate.Proofs.Server.Exclusivity

/-!
# Concurrent changes of a workflow

Requests that activate or deactivate one workflow at the same time share the stores, and neither the
workflow store nor the registry is locked from one step of a request to its next.
`ChangeRace.Stage` says how far a request has come, `Stage.advance` takes its next atomic step, and
`ChangeRace.run` lets any number of requests take their steps in the order of a schedule.
`run_uninterrupted` says that a request whose steps follow each other directly does what its
handler does, and `Requester.advance_effect` what a single step can do.
-/

namespace FlowGate

open ExclusivityRegistry Server

namespace ChangeRace

/-- What a request does to a workflow. -/
inductive Change where
  | activate
  | deactivate
  deriving DecidableEq

namespace Change

/-- The handler of the requests for a change. -/
def handler (arrival : Arrival) (id : String) : Change → Handler Envelope
  | .activate => Server.activate arrival id
  | .deactivate => Server.deactivate arrival id

/-- The version that is published: a new one, or none when the change withdraws it. -/
def version (arrival : Arrival) : Change → Option String
  | .activate => some arrival.versionId
  | .deactivate => none

/-- The stores with the change noted in the registry. -/
def note (stores : Stores) (id : String) : Change → Stores
  | .activate => stores.register id
  | .deactivate => stores.unregister id

/-- The answer to a request that was carried out. -/
def answer (arrival : Arrival) (id : String) : Change → Envelope
  | .activate => activated arrival id
  | .deactivate => deactivated arrival id

end Change

/-- What the requests share: the stores, and what has been done to them so far. -/
structure Shared where
  stores : Stores
  /-- The changes of the stored workflow, the latest first. -/
  published : List Change
  /-- The changes of the registry, the latest first. -/
  noted : List Change

/-- How far a request has come, told by the step it takes next. -/
inductive Stage where
  /-- Looks the workflow up. -/
  | lookUp
  /-- Lists the registered workflows, among which an activation looks for conflicts. -/
  | listActive (workflow : Workflow)
  /-- Compares nodes with the workflows that have the given ids. -/
  | compare (claimants : List Node) (others : List String)
  /-- Publishes a version of the workflow or withdraws it. -/
  | publish
  /-- Enters the workflow in the registry or removes it there. -/
  | note
  /-- Nothing is left to do. -/
  | returned (result : Except Failure Envelope)

namespace Stage

/-- One atomic step of a request about the workflow with an id. -/
def advance (id : String) (change : Change) (arrival : Arrival) (shared : Shared) :
    Stage → Stage × Shared
  | .lookUp =>
      match shared.stores.workflow id, change with
      | .error failure, _ => (.returned (.error failure), shared)
      | .ok workflow, .activate => (.listActive workflow, shared)
      | .ok _, .deactivate => (.publish, shared)
  | .listActive workflow =>
      let claimants := defaults.claimants workflow none
      let others := shared.stores.active.ids.filter (· ≠ workflow.id)
      if claimants.isEmpty ∨ others.isEmpty then (.publish, shared)
      else (.compare claimants others, shared)
  | .compare claimants others =>
      match defaults.ensureNoConflict claimants (shared.stores.workflows.find (.byIds others)) with
      | .error error => (.returned (.error (.trigger error)), shared)
      | .ok () => (.publish, shared)
  | .publish =>
      match shared.stores.publish id (change.version arrival) with
      | .error failure => (.returned (.error failure), shared)
      | .ok stores => (.note, { shared with stores, published := change :: shared.published })
  | .note =>
      (.returned (.ok (change.answer arrival id)),
        { shared with stores := change.note shared.stores id, noted := change :: shared.noted })
  | .returned result => (.returned result, shared)

variable {id : String} {change : Change} {arrival : Arrival} {shared : Shared}

/-- A request about an unknown workflow is refused at once. -/
theorem advance_lookUp_of_none (h : shared.stores.workflows.get? id = none) :
    lookUp.advance id change arrival shared =
      (.returned (.error (.notFound s!"Workflow '{id}' not found")), shared) := by
  simp only [advance, Stores.workflow, h]

/-- Only an activation checks the workflow before it changes it. -/
theorem advance_lookUp_of_some {workflow : Workflow}
    (h : shared.stores.workflows.get? id = some workflow) :
    lookUp.advance id change arrival shared =
      match change with
      | .activate => (.listActive workflow, shared)
      | .deactivate => (.publish, shared) := by
  cases change <;> simp only [advance, Stores.workflow, h]

/-- The workflow is compared with the other registered ones, unless that cannot find a conflict. -/
theorem advance_listActive (id : String) (arrival : Arrival) (shared : Shared)
    (workflow : Workflow) :
    let claimants := defaults.claimants workflow none
    let others := shared.stores.active.ids.filter (· ≠ workflow.id)
    (listActive workflow).advance id .activate arrival shared = (.publish, shared) ∧
        defaults.ensureNoConflict claimants (shared.stores.workflows.find (.byIds others)) =
          .ok () ∨
      (listActive workflow).advance id .activate arrival shared =
        (.compare claimants others, shared) := by
  intro claimants others
  by_cases hskip : claimants.isEmpty ∨ others.isEmpty
  · refine .inl ⟨if_pos hskip, ensureNoConflict_of_isEmpty (hskip.imp_right fun hothers ↦ ?_)⟩
    rw [List.isEmpty_iff.1 hothers, find_byIds_nil]
    rfl
  · exact .inr (if_neg hskip)

theorem advance_compare (claimants : List Node) (others : List String) :
    (compare claimants others).advance id change arrival shared =
      match defaults.ensureNoConflict claimants
        (shared.stores.workflows.find (.byIds others)) with
      | .error error => (.returned (.error (.trigger error)), shared)
      | .ok () => (.publish, shared) := rfl

/-- A stored workflow is published without fail. -/
theorem advance_publish {workflow : Workflow}
    (h : shared.stores.workflows.get? id = some workflow) :
    publish.advance id change arrival shared =
      (.note,
        ⟨{ shared.stores with
            workflows := shared.stores.workflows.insert id
              { workflow with activation := .versioned (change.version arrival) } },
          change :: shared.published, shared.noted⟩) := by
  simp only [advance, Stores.publish, WorkflowStore.setActiveVersion, h]

theorem advance_note :
    note.advance id change arrival shared =
      (.returned (.ok (change.answer arrival id)),
        ⟨change.note shared.stores id, shared.published, change :: shared.noted⟩) := rfl

theorem advance_returned (result : Except Failure Envelope) :
    (returned result).advance id change arrival shared = (.returned result, shared) := rfl

/-- Whether the request has changed the stored workflow but not yet the registry. -/
def isNoting : Stage → Bool
  | .note => true
  | .lookUp | .listActive _ | .compare _ _ | .publish | .returned _ => false

/-- Whether the request has been answered. -/
def isOver : Stage → Bool
  | .returned _ => true
  | .lookUp | .listActive _ | .compare _ _ | .publish | .note => false

/-- An answered request has nothing left to note. -/
theorem isNoting_of_isOver {stage : Stage} (h : stage.isOver = true) : stage.isNoting = false := by
  cases stage with
  | returned result => rfl
  | lookUp | listActive | compare | publish | note => cases h

end Stage

/-- A request under way. -/
structure Requester where
  change : Change
  arrival : Arrival
  stage : Stage

/-- The request after its next step, and what is shared. -/
def Requester.advance (id : String) (requester : Requester) (shared : Shared) :
    Requester × Shared :=
  let (stage, shared) := requester.stage.advance id requester.change requester.arrival shared
  ({ requester with stage }, shared)

end ChangeRace

/-- Requests under way, and what they share. -/
structure ChangeRace where
  shared : ChangeRace.Shared
  requesters : List ChangeRace.Requester

namespace ChangeRace

/-- Requests of which none has taken a step. -/
def start (stores : Stores) (requests : List (Change × Arrival)) : ChangeRace :=
  ⟨⟨stores, [], []⟩, requests.map fun (change, arrival) ↦ ⟨change, arrival, .lookUp⟩⟩

/-- One of the requests about the workflow with an id takes its next step; without such a request
nothing happens. -/
def step (id : String) (race : ChangeRace) (index : Nat) : ChangeRace :=
  match race.requesters[index]? with
  | none => race
  | some requester =>
      let (requester, shared) := requester.advance id race.shared
      ⟨shared, race.requesters.set index requester⟩

/-- The requests take steps in the order of a schedule. -/
def run (id : String) (race : ChangeRace) (schedule : List Nat) : ChangeRace :=
  schedule.foldl (step id) race

/-- `race.IsOver` says all requests have been answered. -/
def IsOver (race : ChangeRace) : Prop :=
  ∀ requester ∈ race.requesters, requester.stage.isOver = true

instance (race : ChangeRace) : Decidable race.IsOver :=
  inferInstanceAs (Decidable (∀ requester ∈ race.requesters, requester.stage.isOver = true))

variable {id : String} {race : ChangeRace} {requester : Requester} {index : Nat}

theorem step_of_none (h : race.requesters[index]? = none) : race.step id index = race := by
  simp only [step, h]

theorem step_of_some (h : race.requesters[index]? = some requester) :
    race.step id index =
      ⟨(requester.advance id race.shared).2,
        race.requesters.set index (requester.advance id race.shared).1⟩ := by
  simp only [step, h]

/-- A step of a request that was put in the place of another. -/
theorem step_set (h : race.requesters[index]? = some requester) (shared : Shared)
    (other : Requester) :
    (⟨shared, race.requesters.set index other⟩ : ChangeRace).step id index =
      ⟨(other.advance id shared).2,
        race.requesters.set index (other.advance id shared).1⟩ := by
  obtain ⟨hlt, _⟩ := List.getElem?_eq_some_iff.1 h
  rw [step_of_some (List.getElem?_set_self hlt), List.set_set]

@[simp]
theorem run_nil (race : ChangeRace) : race.run id [] = race := rfl

theorem run_cons (race : ChangeRace) (index : Nat) (schedule : List Nat) :
    race.run id (index :: schedule) = (race.step id index).run id schedule := rfl

/-- A schedule can be followed in two parts. -/
theorem run_append (race : ChangeRace) (first second : List Nat) :
    race.run id (first ++ second) = (race.run id first).run id second :=
  List.foldl_append

/-- Five steps of a request that directly follow each other answer it and change the stores as its
handler does. -/
theorem run_uninterrupted (hrequester : race.requesters[index]? = some requester)
    (hstage : requester.stage = .lookUp) :
    let outcome := (requester.change.handler requester.arrival id).outcome race.shared.stores
    let after := race.run id (List.replicate 5 index)
    after.shared.stores = outcome.2 ∧
      after.requesters =
        race.requesters.set index { requester with stage := .returned outcome.1 } := by
  obtain ⟨change, arrival, stage⟩ := requester
  subst hstage
  simp only [List.replicate, run_cons, run_nil, step_of_some hrequester, step_set hrequester,
    Requester.advance]
  cases hstored : race.shared.stores.workflows.get? id with
  | none =>
      -- a request that is answered early does nothing in the steps that are left
      simp only [Stage.advance_lookUp_of_none hstored, Stage.advance_returned]
      cases change with
      | activate => simp only [Change.handler, outcome_activate, hstored, and_self]
      | deactivate => simp only [Change.handler, outcome_deactivate, hstored, and_self]
  | some workflow =>
      simp only [Stage.advance_lookUp_of_some hstored]
      cases change with
      | deactivate =>
          simp only [Stage.advance_publish hstored, Stage.advance_note, Stage.advance_returned,
            Change.handler, outcome_deactivate, hstored]
          exact ⟨rfl, rfl⟩
      | activate =>
          simp only [Change.handler, outcome_activate, hstored]
          rcases Stage.advance_listActive id arrival race.shared workflow with
            ⟨hlist, hfree⟩ | hlist
          · simp only [hlist, Stage.advance_publish hstored, Stage.advance_note,
              Stage.advance_returned, hfree]
            exact ⟨rfl, rfl⟩
          simp only [hlist, Stage.advance_compare]
          cases hcheck : defaults.ensureNoConflict (defaults.claimants workflow none)
              (race.shared.stores.workflows.find
                (.byIds (race.shared.stores.active.ids.filter (· ≠ workflow.id)))) with
          | error error => simp only [Stage.advance_returned, and_self]
          | ok _ =>
              simp only [Stage.advance_publish hstored, Stage.advance_note]
              exact ⟨rfl, rfl⟩

/-- What the next step of a request about the workflow with an id can do. -/
inductive Requester.Effect (id : String) (requester next : Requester) (shared : Shared) :
    Shared → Prop where
  /-- It reads, or is over. -/
  | quiet (hstage : requester.stage.isNoting = false) (hnext : next.stage.isNoting = false) :
      Effect id requester next shared shared
  /-- It changes the stored workflow. -/
  | publishes (workflow : Workflow) (hstage : requester.stage.isNoting = false)
      (hnext : next.stage.isNoting = true)
      (hstored : shared.stores.workflows.get? id = some workflow) :
      Effect id requester next shared
        ⟨{ shared.stores with
            workflows := shared.stores.workflows.insert id { workflow with
              activation := .versioned (requester.change.version requester.arrival) } },
          requester.change :: shared.published, shared.noted⟩
  /-- It changes the registry. -/
  | notes (hstage : requester.stage.isNoting = true) (hnext : next.stage.isNoting = false) :
      Effect id requester next shared
        ⟨requester.change.note shared.stores id, shared.published,
          requester.change :: shared.noted⟩

/-- Every step has one of the listed effects. -/
theorem Requester.advance_effect (id : String) (requester : Requester) (shared : Shared) :
    Effect id requester (requester.advance id shared).1 shared (requester.advance id shared).2 := by
  obtain ⟨change, arrival, stage⟩ := requester
  cases stage with
  | lookUp =>
      simp only [Requester.advance, Stage.advance]
      split <;> exact .quiet rfl rfl
  | listActive workflow =>
      simp only [Requester.advance, Stage.advance]
      split <;> exact .quiet rfl rfl
  | compare claimants others =>
      simp only [Requester.advance, Stage.advance]
      split <;> exact .quiet rfl rfl
  | publish =>
      simp only [Requester.advance, Stage.advance, Stores.publish]
      cases hpublish : shared.stores.workflows.setActiveVersion id (change.version arrival) with
      | error error => exact .quiet rfl rfl
      | ok result =>
          obtain ⟨published, workflows⟩ := result
          obtain ⟨workflow, hstored, rfl, rfl⟩ :=
            WorkflowStore.setActiveVersion_eq_ok_iff.1 hpublish
          exact .publishes workflow rfl rfl hstored
  | note => exact .notes rfl rfl
  | returned result => exact .quiet rfl rfl

end ChangeRace

end FlowGate
