import FlowGate.Execution.Codec
import FlowGate.Store.Basic

/-!
# Stores and seeds

The three stores of a server, and the seed document that fills them at the start. A seed names
workflows, executions and the ids of live workflows independently of each other.
-/

namespace FlowGate

/-- The stores of a server. -/
structure Stores where
  workflows : WorkflowStore
  executions : ExecutionStore
  /-- The workflows whose triggers are live. -/
  active : ActiveRegistry

/-- Stores without content. -/
def Stores.empty : Stores := ⟨.empty, .empty, .empty⟩

/-- The content to start with. -/
structure Seed where
  workflows : List Snapshot
  executions : List Execution
  active : List String

/-- A seed that cannot be used. -/
inductive SeedError where
  /-- The document cannot be read. -/
  | io
  /-- The document is not a seed. -/
  | parse
  deriving DecidableEq

namespace Seed

/-- Reads a seed. -/
def ofJson? (json : Json) : Option Seed := do
  let field ← json.record? ["workflows", "executions", "active"]
  let workflows ← Json.withDefault [] (Json.list? Snapshot.ofJson?) (field "workflows")
  let executions ← Json.withDefault [] (Json.list? Execution.ofJson?) (field "executions")
  let active ← Json.withDefault [] (Json.list? Json.string?) (field "active")
  return ⟨workflows, executions, active⟩

/-- The numbers of workflows, executions and live ids. -/
def counts (seed : Seed) : List Nat :=
  [seed.workflows.length, seed.executions.length, seed.active.length]

end Seed

/-- Adds the content of a seed; a later record replaces an earlier one with the same id. -/
def Stores.load (stores : Stores) (seed : Seed) : Stores where
  workflows := seed.workflows.foldl
    (fun (store : WorkflowStore) snapshot ↦ store.put (.ofSnapshot snapshot)) stores.workflows
  executions := seed.executions.foldl
    (fun (store : ExecutionStore) execution ↦ store.put execution) stores.executions
  active := seed.active.foldl
    (fun (registry : ActiveRegistry) id ↦ (registry.add id).2) stores.active

end FlowGate
