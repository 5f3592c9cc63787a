import FlowGate.Resume.Waiting

/-!
# The bundled engine

An engine over an execution store. It claims the execution by moving its status from waiting to
running, records the call as a run of the node, answers the caller and completes the execution.
Claiming is one step of the store, so of two calls that resume one execution the second is refused.
-/

namespace FlowGate

/-- A call as the output of the node it resumes. -/
def WebhookCall.output (call : WebhookCall) : Value :=
  let content := Value.object <| .ofList
    [("headers", .ofTexts call.headers), ("query", .ofTexts call.query), ("body", call.body)]
  .object (.singleton "main" (.array [.array [.object (.singleton "json" content)]]))

/-- The index of the run after some runs. -/
def Run.nextIndex (runs : List Run) : UInt32 :=
  match runs.getLast? with
  | some last => last.executionIndex + 1
  | none => 0

/-- The run that records a call at a point of time. -/
def Run.ofCall (now : Int64) (runs : List Run) (call : WebhookCall) : Run :=
  ⟨now, 0, Run.nextIndex runs, [none], none, some call.output⟩

namespace Resumption

/-- The execution while it runs, with the call recorded. -/
def running (resumption : Resumption) (now : Int64) : Execution :=
  let execution := resumption.execution
  let results := execution.data.resultData
  let runs := (results.runData.get? resumption.node.name).getD []
  let runs := runs ++ [Run.ofCall now runs resumption.call]
  { execution with
    status := .running
    data := { execution.data with
      resultData := { results with
        runData := results.runData.insert resumption.node.name runs } } }

/-- The execution after it has run. -/
def completed (resumption : Resumption) (now : Int64) : Execution :=
  { resumption.running now with status := .success, finished := true }

end Resumption

namespace Engine

/-- The refusal of a call whose execution could not be claimed. -/
def claimError (id : String) : RepositoryError → WebhookError
  | .conflict _ => .conflict s!"The execution \"{id}\" is running already."
  | .notFound => .notFound s!"The execution \"{id}\" does not exist."
  | error => .repository error

/-- Claims an execution. -/
def claim (store : ExecutionStore) (id : String) : Except WebhookError ExecutionStore :=
  match store.tryTransition id .waiting .running with
  | .ok store => .ok store
  | .error error => .error (claimError id error)

/-- The answer to the caller. -/
def started : WebhookResponse :=
  .ofValue (.object (.singleton "message" (.string "Workflow was started")))

/-- Resumes an execution at a point of time. -/
def resume (now : Int64) (resumption : Resumption) :
    StateM ExecutionStore (Except WebhookError (Option WebhookResponse)) := do
  match claim (← get) resumption.execution.id with
  | .error error => return .error error
  | .ok claimed =>
      set claimed
      modify fun store ↦ store.put (resumption.running now)
      modify fun store ↦ store.put (resumption.completed now)
      return .ok (some started)

end Engine

end FlowGate
