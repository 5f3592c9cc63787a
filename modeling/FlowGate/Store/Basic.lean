import FlowGate.Execution.Basic
import FlowGate.Workflow.Query

/-!
# Stores

A `WorkflowStore` keeps workflows by id, and an `ActiveRegistry` is the set of ids whose triggers
are live. The two are separate: nothing here keeps them in step. An `ExecutionStore` keeps
executions by id. `tryTransition` changes the status of an unfinished execution only if it has the
expected one, in one step, so of two callers that expect the same status one fails. A
`RepositoryError` says why a store could not answer.
-/

namespace FlowGate

/-! ## Errors -/

/-- A failed store operation. -/
inductive RepositoryError where
  /-- The store cannot be reached. -/
  | connection
  /-- The store could not run the query. -/
  | query (reason : String)
  /-- The record does not exist. -/
  | notFound
  /-- The record is not in the expected state. -/
  | conflict (reason : String)
  deriving DecidableEq

/-- The text of the error. -/
def RepositoryError.message : RepositoryError → String
  | .connection => "store unavailable"
  | .query reason => s!"query error: {reason}"
  | .notFound => "entity not found"
  | .conflict reason => s!"conflict: {reason}"

/-! ## Workflows -/

/-- Workflows by id. -/
abbrev WorkflowStore := Table Workflow

namespace WorkflowStore

/-- Stores a workflow under its id. -/
def put (store : WorkflowStore) (workflow : Workflow) : WorkflowStore :=
  store.insert workflow.id workflow

/-- Publishes a version of a workflow, or withdraws it. An older record gets a version field. -/
def setActiveVersion (store : WorkflowStore) (id : String) (version : Option String) :
    Except RepositoryError (Workflow × WorkflowStore) :=
  match store.get? id with
  | none => .error .notFound
  | some workflow =>
      let published := { workflow with activation := .versioned version }
      .ok (published, store.insert id published)

/-- The stored workflows that a filter asks for, in ascending order of ids. -/
def find (store : WorkflowStore) (filter : WorkflowFilter) : List WorkflowSummary :=
  (store.entries.filter fun entry ↦ filter.accepts entry.1 entry.2.isActive).map (·.2.summary)

end WorkflowStore

/-- The ids of workflows whose triggers are live. -/
abbrev ActiveRegistry := Table Unit

namespace ActiveRegistry

/-- Adds an id; the answer says whether it was not there before. -/
def add (registry : ActiveRegistry) (id : String) : Bool × ActiveRegistry :=
  (!registry.contains id, registry.insert id ())

/-- Removes an id; the answer says whether it was there before. -/
def remove (registry : ActiveRegistry) (id : String) : Bool × ActiveRegistry :=
  (registry.contains id, registry.erase id)

/-- The ids in ascending order. -/
def ids (registry : ActiveRegistry) : List String := registry.keys

end ActiveRegistry

/-! ## Executions -/

/-- Executions by id. -/
abbrev ExecutionStore := Table Execution

namespace ExecutionStore

/-- Stores an execution under its id. -/
def put (store : ExecutionStore) (execution : Execution) : ExecutionStore :=
  store.insert execution.id execution

/-- The text of the conflict that an unexpected state causes. -/
def transitionConflict (id : String) (actual expected : ExecutionStatus) : String :=
  s!"execution {id} is {actual.name}, expected {expected.name}"

/-- Changes the status of an unfinished execution from one to another. -/
def tryTransition (store : ExecutionStore) (id : String) (expected target : ExecutionStatus) :
    Except RepositoryError ExecutionStore :=
  match store.get? id with
  | none => .error .notFound
  | some execution =>
      if execution.status ≠ expected ∨ execution.finished then
        .error (.conflict (transitionConflict id execution.status expected))
      else .ok (store.insert id { execution with status := target })

end ExecutionStore

end FlowGate
