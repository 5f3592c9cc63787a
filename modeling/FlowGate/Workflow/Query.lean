import FlowGate.Workflow.Basic

/-!
# Workflow queries

What a workflow store is asked, a `WorkflowFilter`, and what it answers, a list of
`WorkflowSummary`.
-/

namespace FlowGate

/-- The published version of an active workflow. -/
@[ext]
structure WorkflowVersion where
  versionId : String
  nodes : List Node
  pinData : Table Value

/-- Whether a node has pinned output other than null. -/
def WorkflowVersion.hasPinnedData (version : WorkflowVersion) (nodeName : String) : Bool :=
  FlowGate.hasPinnedData version.pinData nodeName

/-- A workflow as a store lists it; it has no version when it is not active. -/
@[ext]
structure WorkflowSummary where
  id : String
  name : String
  activeVersion : Option WorkflowVersion

/-- Which workflows are asked for. -/
structure WorkflowFilter where
  /-- The ids to choose from, if they are restricted. -/
  ids : Option (List String)
  /-- Whether only active workflows are asked for. -/
  activeOnly : Bool
  /-- An id that is not asked for. -/
  excludeId : Option String
  deriving DecidableEq

namespace WorkflowFilter

/-- All active workflows but one. -/
def activeExcluding (id : String) : WorkflowFilter := ⟨none, true, some id⟩

/-- The workflows with the given ids. -/
def byIds (ids : List String) : WorkflowFilter := ⟨some ids, false, none⟩

/-- Whether a workflow with an id and an activity is asked for. -/
def accepts (filter : WorkflowFilter) (id : String) (isActive : Bool) : Bool :=
  (!filter.activeOnly || isActive) && filter.excludeId != some id &&
    match filter.ids with
    | some ids => id ∈ ids
    | none => true

end WorkflowFilter

/-- The published version of a workflow, if it is active; an older record has an empty version
id. -/
def Workflow.activeVersion? (workflow : Workflow) : Option WorkflowVersion :=
  if workflow.isActive then
    some ⟨workflow.activation.versionId?.getD "", workflow.nodes, workflow.pinData⟩
  else none

/-- The summary of a workflow. -/
def Workflow.summary (workflow : Workflow) : WorkflowSummary :=
  ⟨workflow.id, workflow.name, workflow.activeVersion?⟩

end FlowGate
