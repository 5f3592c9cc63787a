import FlowGate.Calendar.Timestamp
import FlowGate.Workflow.Basic

/-!
# Executions

An execution is one run of a workflow. It pauses with the status `waiting` at a node that waits
for a call, and keeps what it needs to go on: the runs of its nodes so far and the stack of nodes
still to run.
-/

namespace FlowGate

/-- The state of an execution. -/
inductive ExecutionStatus where
  | new
  | running
  | waiting
  | success
  | error
  | crashed
  | canceled
  deriving DecidableEq

namespace ExecutionStatus

/-- Whether the execution is over. -/
def isTerminal : ExecutionStatus → Bool
  | .success | .error | .crashed | .canceled => true
  | .new | .running | .waiting => false

/-- The name of a status. -/
def name : ExecutionStatus → String
  | .new => "new"
  | .running => "running"
  | .waiting => "waiting"
  | .success => "success"
  | .error => "error"
  | .crashed => "crashed"
  | .canceled => "canceled"

/-- Every status. -/
def all : List ExecutionStatus :=
  [.new, .running, .waiting, .success, .error, .crashed, .canceled]

end ExecutionStatus

/-- How an execution was started. -/
inductive ExecutionMode where
  | manual
  | trigger
  | webhook
  | retry
  | internal
  deriving DecidableEq

namespace ExecutionMode

/-- The name of a mode. -/
def name : ExecutionMode → String
  | .manual => "manual"
  | .trigger => "trigger"
  | .webhook => "webhook"
  | .retry => "retry"
  | .internal => "internal"

/-- Every mode. -/
def all : List ExecutionMode := [.manual, .trigger, .webhook, .retry, .internal]

end ExecutionMode

/-- Where the input of a run came from. -/
@[ext]
structure Source where
  previousNode : String
  previousNodeOutput : Option UInt32
  previousNodeRun : Option UInt32
  deriving DecidableEq

/-- One run of a node. -/
@[ext]
structure Run where
  /-- The start in milliseconds since 1970. -/
  startTime : Int64
  /-- The duration in milliseconds. -/
  executionTime : Int64
  executionIndex : UInt32
  source : List (Option Source)
  /-- An input that was frozen for this run. -/
  inputOverride : Option Value
  data : Option Value

/-- A run without times that carries a frozen input on. -/
def Run.placeholder (source : List (Option Source)) (executionIndex : UInt32)
    (inputOverride : Value) : Run :=
  ⟨0, 0, executionIndex, source, some inputOverride, none⟩

/-- A node that is still to run, with its input. -/
@[ext]
structure StackEntry where
  node : Node
  data : Value
  source : Option Value

/-- The results of an execution so far. -/
@[ext]
structure ResultData where
  /-- The runs of each node, oldest first. -/
  runData : Table (List Run)
  lastNodeExecuted : Option String
  error : Option Value

/-- The results before anything ran. -/
def ResultData.empty : ResultData := ⟨.empty, none, none⟩

/-- The data of an execution. -/
@[ext]
structure ExecutionData where
  resultData : ResultData
  /-- The nodes still to run, if the engine has stored them. -/
  nodeStack : Option (List StackEntry)
  waitTill : Option Instant
  /-- Whether a resumption needs a token. -/
  validateSignature : Bool

/-- The data before anything ran. -/
def ExecutionData.empty : ExecutionData := ⟨.empty, none, none, false⟩

/-- A run of a workflow. -/
@[ext]
structure Execution where
  id : String
  status : ExecutionStatus
  finished : Bool
  mode : ExecutionMode
  /-- The workflow as it was when the execution started. -/
  workflowData : Snapshot
  data : ExecutionData

/-- Whether the execution is paused and not finished. -/
def Execution.isWaiting (execution : Execution) : Bool :=
  execution.status = .waiting && !execution.finished

end FlowGate
