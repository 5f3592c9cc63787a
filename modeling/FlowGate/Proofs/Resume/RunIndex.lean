import FlowGate.Execution.Codec
import FlowGate.Proofs.Resume.IssuedUrl
import FlowGate.Proofs.Resume.Preparation

/-!
# The run that records a call

`Run.Logs` says what a run holds that records a call, and `Execution.ResumedBy` that the record of a
resumed execution is that of the prepared one with this run behind the others of the node.
The run has the index behind that of the last run that is left, in words of 32 bits. `Run.behind?`
is this last run, read off the runs before the execution was prepared, and `resumed_index_exact_iff`
says the index is one more than that of this run exactly if that is not the largest word; else the
indices begin at zero again.
-/

namespace FlowGate

namespace Run

/-- The index that a run behind some runs should have, without an upper limit. -/
def indexBehind (runs : List Run) : Nat :=
  match runs.getLast? with
  | none => 0
  | some last => last.executionIndex.toNat + 1

/-- The run behind which a resumed node goes on: its last one if that had a frozen input, else the
one before that. -/
def behind? (runs : List Run) : Option Run :=
  runs.getLast?.bind fun last ↦
    if last.inputOverride.isSome then some last else runs.dropLast.getLast?

/-- The index of the next run is that of the last one plus one, in 32 bits. -/
theorem toNat_nextIndex (runs : List Run) :
    (nextIndex runs).toNat = indexBehind runs % 4294967296 := by
  rw [nextIndex, indexBehind]
  cases runs.getLast? with
  | none => rfl
  | some last => exact UInt32.toNat_add last.executionIndex 1

/-- It is exact unless the last run has the largest index. -/
theorem toNat_nextIndex_eq_iff {runs : List Run} :
    (nextIndex runs).toNat = indexBehind runs ↔
      ∀ last, runs.getLast? = some last → last.executionIndex.toNat ≠ 4294967295 := by
  rw [toNat_nextIndex, indexBehind]
  cases hlast : runs.getLast? with
  | none => simp
  | some last =>
      have hlt : last.executionIndex.toNat < 4294967296 := last.executionIndex.toNat_lt
      simp only [Option.some.injEq, forall_eq']
      omega

/-- The last run that is left when a node is reopened has the index of the run behind which the node
goes on. -/
theorem getLast?_reopen (runs : List Run) :
    (reopen runs).getLast?.map (·.executionIndex) = (behind? runs).map (·.executionIndex) := by
  rcases List.eq_nil_or_concat' runs with rfl | ⟨kept, last, rfl⟩
  · rfl
  rw [behind?, List.getLast?_concat, List.dropLast_concat, Option.bind_some]
  -- a frozen input is held by a run with the index of the dropped one
  cases hinput : last.inputOverride with
  | none => rw [reopen_append_of_none kept hinput, Option.isSome_none, if_neg Bool.false_ne_true]
  | some input =>
      rw [reopen_append_of_some kept hinput, List.getLast?_concat, Option.isSome_some, if_pos rfl]
      rfl

/-- So what holds of the index of one of the two holds of that of the other. -/
theorem getLast?_reopen_index_iff {runs : List Run} {P : UInt32 → Prop} :
    (∀ last, (reopen runs).getLast? = some last → P last.executionIndex) ↔
      ∀ last, behind? runs = some last → P last.executionIndex := by
  have hindex := getLast?_reopen runs
  cases hleft : (reopen runs).getLast? with
  | none =>
      rw [hleft, Option.map_none, eq_comm, Option.map_eq_none_iff] at hindex
      rw [hindex]
  | some left =>
      rw [hleft, Option.map_some, eq_comm, Option.map_eq_some_iff] at hindex
      obtain ⟨last, hlast, hindex⟩ := hindex
      simp only [hlast, Option.some.injEq, forall_eq', hindex]

end Run

/-- The runs of a node behind which an execution was resumed are those that were left, and one
more. -/
theorem Execution.runsOf_resumedOnce (execution : Execution) (node : Node) (call : WebhookCall)
    (now : Int64) :
    (execution.resumedOnce node call now).runsOf node.name =
      Run.reopen (execution.runsOf node.name) ++
        [Run.ofCall now (Run.reopen (execution.runsOf node.name)) call] := by
  rw [← runsOf_prepareForResume, runsOf]
  simp only [resumedOnce, Table.get?_insert, if_true, Option.getD_some]
  rfl

/-- `run.Logs left call now` says the run is the one that records a call as made at a point of time,
behind the runs that are left of the node. -/
structure Run.Logs (run : Run) (left : List Run) (call : WebhookCall) (now : Int64) : Prop where
  records : run.Records call
  startTime : run.startTime = now
  executionTime : run.executionTime = 0
  source : run.source = [none]
  inputOverride : run.inputOverride = none
  executionIndex : run.executionIndex.toNat = Run.indexBehind left % 4294967296

theorem Run.logs_ofCall (now : Int64) (left : List Run) (call : WebhookCall) :
    (ofCall now left call).Logs left call now where
  records := records_ofCall now left call
  startTime := rfl
  executionTime := rfl
  source := rfl
  inputOverride := rfl
  executionIndex := toNat_nextIndex left

/-- `before.ResumedBy node call now after` says `after` is exactly the record of the execution
`before` once it is prepared to go on behind the node, the call is logged as one more run of the
node, and the execution is completed. -/
structure Execution.ResumedBy (before : Execution) (node : Node) (call : WebhookCall) (now : Int64)
    (after : Execution) : Prop extends before.ResumesTo node call after where
  derived : ∃ prepared run, before.PreparedFor node prepared ∧
    run.Logs (prepared.runsOf node.name) call now ∧
    after = { prepared with
      status := .success
      finished := true
      data := { prepared.data with
        resultData := { prepared.data.resultData with
          runData := prepared.data.resultData.runData.insert node.name
            (prepared.runsOf node.name ++ [run]) } } }

theorem Execution.resumedBy_resumedOnce {execution : Execution} (h : execution.status = .waiting)
    (node : Node) (call : WebhookCall) (now : Int64) :
    execution.ResumedBy node call now (execution.resumedOnce node call now) where
  toResumesTo := resumedOnce_resumesTo h node call now
  derived := ⟨execution.prepareForResume node, _, preparedFor_iff.2 rfl,
    Run.logs_ofCall now ((execution.prepareForResume node).runsOf node.name) call, rfl⟩

namespace WaitingWebhooks

variable {webhooks : NodeWebhooks} {signer : UrlSigner} {routePrefix : String} {now : Int64}
  {call : WebhookCall} {store after : ExecutionStore} {answer : WebhookResponse}

/-- The run that records a call has the index behind that of the last run left of its node, in words
of 32 bits. This is one more exactly if the run behind which the node goes on does not have the
largest index. -/
theorem resumed_index_exact_iff (hkeyed : store.KeyedBy Execution.id)
    (h : ((bundled webhooks signer routePrefix now).execute call).run store =
      (.ok answer, after)) :
    ∃ execution node record run, store.get? call.executionId = some execution ∧
      execution.lastNode? = some node ∧ after.get? call.executionId = some record ∧
      let left := (execution.prepareForResume node).runsOf node.name
      record.runsOf node.name = left ++ [run] ∧ run.Records call ∧
        run.executionIndex.toNat = Run.indexBehind left % 4294967296 ∧
        (run.executionIndex.toNat = Run.indexBehind left ↔
          ∀ last, Run.behind? (execution.runsOf node.name) = some last →
            last.executionIndex.toNat ≠ 4294967295) := by
  rcases run_execute_bundled_cases routePrefix now webhooks signer call hkeyed with
    ⟨error, hrun⟩ | ⟨execution, resumption, hstored, hfor, hrun⟩
  · rw [hrun] at h
    cases h
  rw [hrun] at h
  cases h
  let left := Run.reopen (execution.runsOf resumption.node.name)
  refine ⟨execution, resumption.node, execution.resumedOnce resumption.node call now,
    Run.ofCall now left call, hstored, hfor.node, ?_, ?_⟩
  · exact (Table.get?_insert _ _ _ _).trans (if_pos rfl)
  rw [Execution.runsOf_prepareForResume,
    ← Run.getLast?_reopen_index_iff (P := fun index ↦ index.toNat ≠ 4294967295)]
  exact ⟨Execution.runsOf_resumedOnce execution resumption.node call now,
    Run.records_ofCall now left call, Run.toNat_nextIndex left, Run.toNat_nextIndex_eq_iff⟩

/-- An execution that waits behind two runs, the last of which had a frozen input, goes on with the
run of index two. -/
theorem heldWait_resumed_with_index_two :
    let node := Node.plain "Wait" WebhookCatalog.waitNodeType
    let waiting := Execution.waitingIn "7" node
    let runs : List Run := [⟨1, 2, 0, [], none, none⟩, ⟨3, 4, 1, [none], some (.bool true), none⟩]
    let execution := { waiting with data := { waiting.data with
      resultData := { waiting.data.resultData with runData := .singleton "Wait" runs } } }
    let store := ExecutionStore.put .empty execution
    let webhooks : NodeWebhooks := fun _ node ↦ WebhookCatalog.webhooks node
    let outcome := ((bundled webhooks ⟨fun _ ↦ "", fun _ _ ↦ false⟩ "webhook-waiting" 0).execute
      (.plain .get "7")).run store
    ∃ answer record run, outcome.1 = .ok answer ∧ outcome.2.get? "7" = some record ∧
      record.runsOf "Wait" = (execution.prepareForResume node).runsOf "Wait" ++ [run] ∧
      run.executionIndex.toNat = 2 := by
  intro node waiting runs execution store webhooks outcome
  have hkeyed : store.KeyedBy Execution.id :=
    ExecutionStore.keyed_put (Table.keyedBy_empty _) execution
  obtain ⟨answer, hrun⟩ : ∃ answer, outcome = (.ok answer, outcome.2) := ⟨_, rfl⟩
  obtain ⟨stored, last, record, run, hstored, hlast, hrecord, hruns, _, _, hexact⟩ :=
    resumed_index_exact_iff hkeyed hrun
  cases hstored
  cases hlast
  refine ⟨answer, record, run, congrArg Prod.fst hrun, hrecord, hruns, hexact.2 ?_⟩
  intro last hbehind
  cases hbehind
  decide

/-- The document of an execution that waits with a frozen input in a run of the largest index. -/
def largestIndexDocument : Json :=
  .object [("id", .string "7"), ("status", .string "waiting"),
    ("workflowData", .object [("id", .string "w"),
      ("nodes", .array [.array [.string "Wait", .string "waypost.wait"]])]),
    ("data", .object [("resultData", .object [("lastNodeExecuted", .string "Wait"),
      ("runData", .object [("Wait", .array [.object [("startTime", .number (.integer 1)),
        ("executionTime", .number (.integer 2)), ("executionIndex", .number (.integer 4294967295)),
        ("inputOverride", .bool true)]])])])])]

/-- This execution is resumed behind the run of the largest index, with a run of index zero. -/
theorem largest_index_followed_by_zero :
    let webhooks : NodeWebhooks := fun _ node ↦ WebhookCatalog.webhooks node
    let execute := (bundled webhooks ⟨fun _ ↦ "", fun _ _ ↦ false⟩ "webhook-waiting" 0).execute
      (.plain .get "7")
    ∃ execution answer after record held run,
      Execution.ofJson? largestIndexDocument = some execution ∧
      execute.run (.put .empty execution) = (.ok answer, after) ∧
      after.get? "7" = some record ∧ record.runsOf "Wait" = [held, run] ∧
      held.executionIndex.toNat = 4294967295 ∧
      run.executionIndex.toNat = 0 :=
  ⟨_, _, _, _, _, _, rfl, rfl, rfl, rfl, rfl, rfl⟩

end WaitingWebhooks

end FlowGate
