import FlowGate.Proofs.Resume.Bundled

/-!
# What a resumption records

`Execution.ResumesTo` lists, field by field, how the record of an execution changes when a call
resumes it, and `ExecutionStore.ResumesOne` says that a store changes in this one record. By
`run_execute_bundled_error` and `run_execute_bundled_ok` a call either leaves the store as it is or
changes it like this.
-/

namespace FlowGate

namespace Run

/-- `run.Records call` says the output of the run is one item that holds the headers, the query and
the body of the call. -/
def Records (run : Run) (call : WebhookCall) : Prop :=
  ∃ content : Table Value,
    run.data = some (.object (.singleton "main"
      (.array [.array [.object (.singleton "json" (.object content))]]))) ∧
    content.get? "headers" = some (.ofTexts call.headers) ∧
    content.get? "query" = some (.ofTexts call.query) ∧
    content.get? "body" = some call.body

/-- What takes the place of a run that is dropped: if it had a frozen input, a run for the same
input that has not started. -/
def heldInput? (dropped : Option Run) : Option Run := do
  let run ← dropped
  let input ← run.inputOverride
  return ⟨0, 0, run.executionIndex, run.source, some input, none⟩

theorem records_ofCall (now : Int64) (runs : List Run) (call : WebhookCall) :
    (ofCall now runs call).Records call := by
  refine ⟨_, rfl, ?_, ?_, ?_⟩ <;> simp [Table.ofList, Table.get?_insert]

/-- To reopen a node is to drop its last run, up to a frozen input. -/
theorem reopen_eq (runs : List Run) :
    reopen runs = runs.dropLast ++ (heldInput? runs.getLast?).toList := by
  rw [reopen]
  cases hlast : runs.getLast? with
  | none =>
      rw [List.getLast?_eq_none_iff.1 hlast]
      rfl
  | some last =>
      simp only [heldInput?, bind, Option.bind, pure]
      cases last.inputOverride <;> rfl

end Run

namespace Execution

/-- The runs of a node so far. -/
def runsOf (execution : Execution) (nodeName : String) : List Run :=
  (execution.data.resultData.runData.get? nodeName).getD []

/-- `before.ResumesTo node call after` says `after` is the record of the execution `before` once the
call has resumed it at the node: the execution has succeeded, the node has a run that records the
call in place of its last one, and nothing else has changed but the first entry of the stack. -/
structure ResumesTo (before : Execution) (node : Node) (call : WebhookCall) (after : Execution) :
    Prop where
  waiting : before.status = .waiting
  status : after.status = .success
  finished : after.finished = true
  waitTill : after.data.waitTill = none
  id : after.id = before.id
  mode : after.mode = before.mode
  workflowData : after.workflowData = before.workflowData
  validateSignature : after.data.validateSignature = before.data.validateSignature
  lastNodeExecuted :
    after.data.resultData.lastNodeExecuted = before.data.resultData.lastNodeExecuted
  error : after.data.resultData.error = before.data.resultData.error
  otherRuns : ∀ name, name ≠ node.name →
    after.data.resultData.runData.get? name = before.data.resultData.runData.get? name
  stackLength : after.data.nodeStack.map List.length = before.data.nodeStack.map List.length
  otherEntries : after.data.nodeStack.map List.tail = before.data.nodeStack.map List.tail
  runs : ∃ run : Run, run.Records call ∧
    after.data.resultData.runData.get? node.name =
      some ((before.runsOf node.name).dropLast ++
        (Run.heldInput? (before.runsOf node.name).getLast?).toList ++ [run])

/-- The runs of a node that an execution goes on behind. -/
theorem runsOf_prepareForResume (execution : Execution) (node : Node) :
    (execution.prepareForResume node).runsOf node.name =
      Run.reopen (execution.runsOf node.name) := by
  simp only [runsOf, prepareForResume, Table.get?_modify, if_true]
  cases execution.data.resultData.runData.get? node.name <;> rfl

theorem resumedOnce_resumesTo {execution : Execution} (h : execution.status = .waiting)
    (node : Node) (call : WebhookCall) (now : Int64) :
    execution.ResumesTo node call (execution.resumedOnce node call now) where
  waiting := h
  status := rfl
  finished := rfl
  waitTill := rfl
  id := rfl
  mode := rfl
  workflowData := rfl
  validateSignature := rfl
  lastNodeExecuted := rfl
  error := rfl
  otherRuns name hname := by
    simp only [resumedOnce, prepareForResume, Table.get?_insert, Table.get?_modify, if_neg hname]
  stackLength := by
    simp only [resumedOnce, prepareForResume, Option.map_map]
    congr 1
    funext stack
    cases stack <;> rfl
  otherEntries := by
    simp only [resumedOnce, prepareForResume, Option.map_map]
    congr 1
    funext stack
    cases stack <;> rfl
  runs := by
    refine ⟨_, Run.records_ofCall now ((execution.prepareForResume node).runsOf node.name) call, ?_⟩
    rw [← Run.reopen_eq, ← runsOf_prepareForResume]
    simp only [resumedOnce, Table.get?_insert, if_true]
    rfl

end Execution

namespace ExecutionStore

/-- `store.ResumesOne after call` says the store becomes `after` when the call resumes the execution
it is addressed to at its last node: the record of this execution changes, and no other. -/
def ResumesOne (store after : ExecutionStore) (call : WebhookCall) : Prop :=
  ∃ before node record, store.get? call.executionId = some before ∧
    before.lastNode? = some node ∧ before.ResumesTo node call record ∧
      ∀ id, after.get? id = if id = call.executionId then some record else store.get? id

/-- A store in which an execution was resumed is not the one before. -/
theorem not_resumesOne_self (store : ExecutionStore) (call : WebhookCall) :
    ¬ store.ResumesOne store call := by
  rintro ⟨before, node, record, hstored, _, hrecord, hafter⟩
  have hsame := hafter call.executionId
  rw [hstored, if_pos rfl] at hsame
  cases hsame
  cases hrecord.waiting.symm.trans hrecord.status

end ExecutionStore

namespace WaitingWebhooks

variable {webhooks : NodeWebhooks} {signer : UrlSigner} {routePrefix : String} {now : Int64}
  {call : WebhookCall} {store after : ExecutionStore}

/-- A refused call leaves every store as it is. -/
theorem run_execute_bundled_error {error : WebhookError}
    (h : ((bundled webhooks signer routePrefix now).execute call).run store =
      (.error error, after)) : after = store := by
  rw [run_execute_bundled] at h
  split at h
  · cases h
    rfl
  split at h
  · cases h
    rfl
  · cases h

/-- The engine gives one answer to every call that it accepts. -/
theorem answer_eq_started {answer : WebhookResponse}
    (h : ((bundled webhooks signer routePrefix now).execute call).run store =
      (.ok answer, after)) : answer = Engine.started := by
  rw [run_execute_bundled] at h
  split at h
  · cases h
  split at h
  · cases h
  · cases h
    rfl

/-- An answered call changes the record of one execution. -/
theorem run_execute_bundled_ok (hkeyed : store.KeyedBy Execution.id) {answer : WebhookResponse}
    (h : ((bundled webhooks signer routePrefix now).execute call).run store =
      (.ok answer, after)) : store.ResumesOne after call := by
  rcases run_execute_bundled_cases routePrefix now webhooks signer call hkeyed with
    ⟨error, hrun⟩ | ⟨execution, resumption, hstored, hfor, hrun⟩
  · rw [hrun] at h
    cases h
  · rw [hrun] at h
    cases h
    have hwaiting := (Execution.ensureResumable_eq_ok_iff.1 hfor.resumable).1
    exact ⟨execution, resumption.node, _, hstored, hfor.node,
      Execution.resumedOnce_resumesTo hwaiting resumption.node call now, Table.get?_insert _ _ _⟩

end WaitingWebhooks

end FlowGate
