import FlowGate.Execution.Basic

/-!
# Stored executions

Reading and writing executions as JSON documents. Every record may be given as an object or as an
array of its fields; fields without a value are left out when a record is written.
-/

namespace FlowGate

/-- The names of statuses in stored executions. -/
def ExecutionStatus.choices : List (String × ExecutionStatus) := all.map fun s ↦ (s.name, s)

/-- The names of modes in stored executions. -/
def ExecutionMode.choices : List (String × ExecutionMode) := all.map fun m ↦ (m.name, m)

/-- A number of 32 bits as a document. -/
def Json.ofUInt32 (value : UInt32) : Json := .ofNat value.toNat

/-- A number of 64 bits as a document. -/
def Json.ofInt64 (value : Int64) : Json := .number (.integer value.toInt)

namespace Source

/-- Reads a stored source. -/
def ofJson? (json : Json) : Option Source := do
  let field ← json.record? ["previousNode", "previousNodeOutput", "previousNodeRun"]
  let previousNode ← Json.required Json.string? (field "previousNode")
  let output ← Json.optional Json.uint32? (field "previousNodeOutput")
  let run ← Json.optional Json.uint32? (field "previousNodeRun")
  return ⟨previousNode, output, run⟩

/-- A source as a document. -/
def toJson (source : Source) : Json :=
  .object <|
    [("previousNode", .string source.previousNode)] ++
    Json.omitNone "previousNodeOutput" Json.ofUInt32 source.previousNodeOutput ++
    Json.omitNone "previousNodeRun" Json.ofUInt32 source.previousNodeRun

/-- Reads a source or null. -/
def optionOfJson? : Json → Option (Option Source)
  | .null => some none
  | json => (ofJson? json).map some

end Source

namespace Run

/-- The fields of a stored run, in order. -/
def fieldNames : List String :=
  ["startTime", "executionTime", "executionIndex", "source", "inputOverride", "data"]

/-- Reads a stored run. -/
def ofJson? (json : Json) : Option Run := do
  let field ← json.record? fieldNames
  let startTime ← Json.required Json.int64? (field "startTime")
  let executionTime ← Json.required Json.int64? (field "executionTime")
  let executionIndex ← Json.withDefault 0 Json.uint32? (field "executionIndex")
  let source ← Json.withDefault [] (Json.list? Source.optionOfJson?) (field "source")
  let inputOverride ← Json.optional Json.toValue? (field "inputOverride")
  let data ← Json.optional Json.toValue? (field "data")
  return ⟨startTime, executionTime, executionIndex, source, inputOverride, data⟩

/-- A run as a document. -/
def toJson (run : Run) : Json :=
  .object <|
    [("startTime", Json.ofInt64 run.startTime), ("executionTime", Json.ofInt64 run.executionTime),
      ("executionIndex", Json.ofUInt32 run.executionIndex),
      ("source", .array (run.source.map (Json.ofOption Source.toJson)))] ++
    Json.omitNone "inputOverride" Value.json run.inputOverride ++
    Json.omitNone "data" Value.json run.data

end Run

namespace StackEntry

/-- Reads a stored stack entry. -/
def ofJson? (json : Json) : Option StackEntry := do
  let field ← json.record? ["node", "data", "source"]
  let node ← Json.required Node.ofJson? (field "node")
  let data ← Json.withDefault .null Json.toValue? (field "data")
  let source ← Json.optional Json.toValue? (field "source")
  return ⟨node, data, source⟩

/-- A stack entry as a document. -/
def toJson (entry : StackEntry) : Json :=
  .object <|
    [("node", entry.node.toJson), ("data", entry.data.json)] ++
    Json.omitNone "source" Value.json entry.source

/-- Reads a stored stack. -/
def stackOfJson? (json : Json) : Option (List StackEntry) := do
  let field ← json.record? ["nodeExecutionStack"]
  Json.withDefault [] (Json.list? ofJson?) (field "nodeExecutionStack")

/-- A stack as a document. -/
def stackToJson (stack : List StackEntry) : Json :=
  .object [("nodeExecutionStack", .array (stack.map toJson))]

end StackEntry

namespace ResultData

/-- Reads stored results. -/
def ofJson? (json : Json) : Option ResultData := do
  let field ← json.record? ["runData", "lastNodeExecuted", "error"]
  let runData ← Json.withDefault .empty (Json.table? (Json.list? Run.ofJson?)) (field "runData")
  let lastNodeExecuted ← Json.optional Json.string? (field "lastNodeExecuted")
  let error ← Json.optional Json.toValue? (field "error")
  return ⟨runData, lastNodeExecuted, error⟩

/-- Results as a document. -/
def toJson (results : ResultData) : Json :=
  .object <|
    [("runData", Json.ofTable (fun runs ↦ .array (runs.map Run.toJson)) results.runData)] ++
    Json.omitNone "lastNodeExecuted" .string results.lastNodeExecuted ++
    Json.omitNone "error" Value.json results.error

end ResultData

namespace ExecutionData

/-- The fields of stored execution data, in order. -/
def fieldNames : List String := ["resultData", "executionData", "waitTill", "validateSignature"]

/-- Reads stored execution data. -/
def ofJson? (json : Json) : Option ExecutionData := do
  let field ← json.record? fieldNames
  let resultData ← Json.withDefault .empty ResultData.ofJson? (field "resultData")
  let nodeStack ← Json.optional StackEntry.stackOfJson? (field "executionData")
  let waitTill ← Json.optional (·.string?.bind Instant.read?) (field "waitTill")
  let validateSignature ← Json.withDefault false Json.bool? (field "validateSignature")
  return ⟨resultData, nodeStack, waitTill, validateSignature⟩

/-- Execution data as a document. -/
def toJson (data : ExecutionData) : Json :=
  .object <|
    [("resultData", data.resultData.toJson)] ++
    Json.omitNone "executionData" StackEntry.stackToJson data.nodeStack ++
    Json.omitNone "waitTill" (.string ∘ Instant.text) data.waitTill ++
    [("validateSignature", .bool data.validateSignature)]

end ExecutionData

namespace Execution

/-- The fields of a stored execution, in order. -/
def fieldNames : List String := ["id", "status", "finished", "mode", "workflowData", "data"]

/-- Reads a stored execution. -/
def ofJson? (json : Json) : Option Execution := do
  let field ← json.record? fieldNames
  let id ← Json.required Json.string? (field "id")
  let status ← Json.required (Json.choice? ExecutionStatus.choices) (field "status")
  let finished ← Json.withDefault false Json.bool? (field "finished")
  let mode ← Json.withDefault .trigger (Json.choice? ExecutionMode.choices) (field "mode")
  let workflowData ← Json.required Snapshot.ofJson? (field "workflowData")
  let data ← Json.withDefault .empty ExecutionData.ofJson? (field "data")
  return ⟨id, status, finished, mode, workflowData, data⟩

/-- An execution as a document. -/
def toJson (execution : Execution) : Json :=
  .object
    [("id", .string execution.id), ("status", .string execution.status.name),
      ("finished", .bool execution.finished), ("mode", .string execution.mode.name),
      ("workflowData", execution.workflowData.toJson), ("data", execution.data.toJson)]

end Execution

end FlowGate
