import FlowGate.Store.Basic
import FlowGate.Trigger.Key

/-!
# Trigger validation

Two checks that keep a resource from being claimed twice. `validateActivation` runs before a
workflow is activated and compares its triggers with those of the workflows whose triggers are
live. `validateManualRun` runs before a workflow is tried out; it also refuses a trigger that is
already live because its own workflow is active.

Both checks read the stores through operations in an arbitrary monad, so the same definitions run
on a store and can be observed.
-/

namespace FlowGate

/-- A trigger that would claim a resource another active workflow holds. -/
structure TriggerConflict where
  nodeName : String
  nodeType : String
  /-- The text of the contested key. -/
  key : String
  workflowId : String
  workflowName : String
  deriving DecidableEq

/-- Why a workflow may not be activated or tried out. -/
inductive TriggerError where
  /-- A trigger is live because the workflow itself is active. -/
  | singleTrigger (nodeName nodeType : String)
  /-- Another active workflow holds the resource. -/
  | parameterConflict (conflict : TriggerConflict)
  /-- A store could not answer. -/
  | repository (error : RepositoryError)
  deriving DecidableEq

/-- The text of the error. -/
def TriggerError.message : TriggerError → String
  | .singleTrigger nodeName nodeType =>
      s!"the trigger node '{nodeName}' ({nodeType}) is already listening because the workflow " ++
        "is active; deactivate the workflow or pin data on the trigger to test it manually"
  | .parameterConflict conflict =>
      s!"the trigger node '{conflict.nodeName}' uses {conflict.key} which is already in use by " ++
        s!"active workflow '{conflict.workflowName}' ({conflict.workflowId})"
  | .repository error => s!"repository error: {error.message}"

/-- `node.isLive pinData` says the node does its work when the workflow runs: it is enabled and its
output is not pinned. -/
def Node.isLive (node : Node) (pinData : Table Value) : Bool :=
  !node.disabled && !hasPinnedData pinData node.name

namespace ExclusivityRegistry

/-- The live nodes of registered types, or only those with a given name. -/
def claimants (registry : ExclusivityRegistry) (workflow : Workflow) (only : Option String) :
    List Node :=
  workflow.nodes.filter fun node ↦
    registry.isChecked node.type && node.isLive workflow.pinData && only.all (node.name = ·)

/-- Whether a published version has a live node of a type with a key. -/
def isHeldBy (registry : ExclusivityRegistry) (nodeType : String) (key : ExclusiveKey)
    (version : WorkflowVersion) : Bool :=
  version.nodes.any fun node ↦
    node.type = nodeType && node.isLive version.pinData && registry.extractKey? node = some key

/-- The first workflow whose published version holds a key. -/
def holder? (registry : ExclusivityRegistry) (nodeType : String) (key : ExclusiveKey)
    (others : List WorkflowSummary) : Option WorkflowSummary :=
  others.find? fun summary ↦ summary.activeVersion.any (registry.isHeldBy nodeType key)

/-- The conflict of one node with other workflows, if there is one. -/
def conflictOf? (registry : ExclusivityRegistry) (others : List WorkflowSummary) (node : Node) :
    Option TriggerConflict := do
  let key ← registry.extractKey? node
  let holder ← registry.holder? node.type key others
  return ⟨node.name, node.type, key.text, holder.id, holder.name⟩

/-- Refuses the first node that is in conflict with other workflows. -/
def ensureNoConflict (registry : ExclusivityRegistry) (nodes : List Node)
    (others : List WorkflowSummary) : Except TriggerError Unit :=
  match nodes.findSome? (registry.conflictOf? others) with
  | some conflict => .error (.parameterConflict conflict)
  | none => .ok ()

end ExclusivityRegistry

/-- The check of triggers over a workflow store and a registry of live workflows. -/
structure TriggerValidation (m : Type → Type) where
  registry : ExclusivityRegistry
  /-- Asks the workflow store. -/
  find : WorkflowFilter → m (Except RepositoryError (List WorkflowSummary))
  /-- Lists the ids of live workflows. -/
  listActive : m (Except RepositoryError (List String))

namespace TriggerValidation

variable {m : Type → Type} [Monad m]

/-- Asks for other workflows and refuses a conflict with them. -/
def compareWith (service : TriggerValidation m) (nodes : List Node) (filter : WorkflowFilter) :
    m (Except TriggerError Unit) := do
  match ← service.find filter with
  | .error error => return .error (.repository error)
  | .ok others => return service.registry.ensureNoConflict nodes others

/-- The check before a workflow is activated. -/
def validateActivation (service : TriggerValidation m) (workflow : Workflow) :
    m (Except TriggerError Unit) := do
  let claimants := service.registry.claimants workflow none
  if claimants.isEmpty then return .ok ()
  match ← service.listActive with
  | .error error => return .error (.repository error)
  | .ok ids =>
      let others := ids.filter (· ≠ workflow.id)
      if others.isEmpty then return .ok ()
      service.compareWith claimants (.byIds others)

/-- The check before a workflow is tried out, starting from one trigger if one is named. -/
def validateManualRun (service : TriggerValidation m) (workflow : Workflow) (isActive : Bool)
    (trigger : Option String) : m (Except TriggerError Unit) := do
  match service.registry.claimants workflow trigger with
  | [] => return .ok ()
  | node :: rest =>
      if isActive then return .error (.singleTrigger node.name node.type)
      service.compareWith (node :: rest) (.activeExcluding workflow.id)

end TriggerValidation

end FlowGate
