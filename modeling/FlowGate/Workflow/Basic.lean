import FlowGate.Workflow.Node

/-!
# Workflows

A workflow is stored as a `Snapshot`. Snapshots of an older era carry only the flag `active`; newer
ones carry the id of the published version, which may be null. A `Workflow` keeps the two eras
apart in its `Activation`. `Workflow.ofSnapshot` and `Workflow.toSnapshot` convert between the two.
-/

namespace FlowGate

/-- How a workflow records whether it is active. -/
inductive Activation where
  /-- The record names the published version, if there is one. -/
  | versioned (version : Option String)
  /-- The record is older than versions and has a flag. -/
  | legacy (active : Bool)
  deriving DecidableEq

namespace Activation

/-- Whether the workflow is active. -/
def isActive : Activation → Bool
  | .versioned version => version.isSome
  | .legacy active => active

/-- The published version, if the record names one. -/
def versionId? : Activation → Option String
  | .versioned version => version
  | .legacy _ => none

end Activation

/-- A workflow as it is stored. -/
@[ext]
structure Snapshot where
  id : String
  name : String
  nodes : List Node
  active : Bool
  /-- The published version: `none` when the record does not have the field, `some none` when the
  field is null. -/
  activeVersionId : Option (Option String)
  /-- The pinned output of nodes, by node name. -/
  pinData : Table Value

/-- A workflow. -/
@[ext]
structure Workflow where
  id : String
  name : String
  nodes : List Node
  /-- The pinned output of nodes, by node name. -/
  pinData : Table Value
  activation : Activation

/-- Whether a node has pinned output other than null. -/
def hasPinnedData (pinData : Table Value) (nodeName : String) : Bool :=
  (pinData.get? nodeName).any fun value ↦ !value.isNull

namespace Workflow

/-- Whether the workflow is active. -/
def isActive (workflow : Workflow) : Bool := workflow.activation.isActive

/-- The first node with a given name. -/
def node? (workflow : Workflow) (name : String) : Option Node :=
  workflow.nodes.find? (·.name = name)

/-- Whether a node has pinned output other than null. -/
def hasPinnedData (workflow : Workflow) (nodeName : String) : Bool :=
  FlowGate.hasPinnedData workflow.pinData nodeName

/-- The workflow of a snapshot; the flag counts only when there is no version field. -/
def ofSnapshot (snapshot : Snapshot) : Workflow where
  id := snapshot.id
  name := snapshot.name
  nodes := snapshot.nodes
  pinData := snapshot.pinData
  activation :=
    match snapshot.activeVersionId with
    | some version => .versioned version
    | none => .legacy snapshot.active

/-- The snapshot of a workflow. -/
def toSnapshot (workflow : Workflow) : Snapshot where
  id := workflow.id
  name := workflow.name
  nodes := workflow.nodes
  active := workflow.isActive
  activeVersionId :=
    match workflow.activation with
    | .versioned version => some version
    | .legacy _ => none
  pinData := workflow.pinData

end Workflow

namespace Snapshot

/-- The fields of a stored workflow, in order. -/
def fieldNames : List String := ["id", "name", "nodes", "active", "activeVersionId", "pinData"]

/-- A version field: absent, null or a text. -/
def versionField? : Option Json → Option (Option (Option String))
  | none => some none
  | some .null => some (some none)
  | some json => json.string?.map fun version ↦ some (some version)

/-- Reads a stored workflow. -/
def ofJson? (json : Json) : Option Snapshot := do
  let field ← json.record? fieldNames
  let id ← Json.required Json.string? (field "id")
  let name ← Json.withDefault "" Json.string? (field "name")
  let nodes ← Json.withDefault [] (Json.list? Node.ofJson?) (field "nodes")
  let active ← Json.withDefault false Json.bool? (field "active")
  let activeVersionId ← versionField? (field "activeVersionId")
  let pinData ← Json.withDefault .empty (Json.table? Json.toValue?) (field "pinData")
  return ⟨id, name, nodes, active, activeVersionId, pinData⟩

/-- A stored workflow as a document. -/
def toJson (snapshot : Snapshot) : Json :=
  .object <|
    [("id", .string snapshot.id), ("name", .string snapshot.name),
      ("nodes", .array (snapshot.nodes.map Node.toJson)), ("active", .bool snapshot.active)] ++
    Json.omitNone "activeVersionId" (Json.ofOption .string) snapshot.activeVersionId ++
    if snapshot.pinData.isEmpty then []
    else [("pinData", Json.ofTable Value.json snapshot.pinData)]

end Snapshot

end FlowGate
