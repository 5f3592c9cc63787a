import FlowGate.Proofs.Execution.Layouts

/-!
# What survives when a stored record is rewritten

`stored_records_survive` says of executions and workflows that they are read again as they were
written, and that the document they are written to says the same as the one they were read from, in
every field of every record inside them. `Execution.KeepsNulls` spells out what this means where
null is a value of its own: as the version of a workflow that is not published, as the pin of a node
and as the data of a stack entry; an error that is `false` stays, too. For each kind of record a
`RecordFormat` lists the fields that need no value: a record has none exactly where the field is
absent or null, and there the field is left out.
-/

namespace FlowGate

open Json

/-! ## Fields that need no value -/

namespace Node

/-- How nodes are stored. -/
def format : RecordFormat Node where
  ofJson? := ofJson?
  toJson := toJson
  optionals := [([(fieldNames, "rewireOutputLogTo")], (·.rewireOutputLogTo.isSome))]

theorem survives : format.Survives where
  reread := rereads_of_forall ofJson?_toJson
  absent_iff json node hread := by
    obtain ⟨field, hfield, _, _, _, _, _, hrewire⟩ := ofJson?_eq_some_iff.1 hread
    simp only [format, List.forall_mem_singleton, follow?_singleton, field?_of_record? hfield]
    exact optional_none_iff hrewire
  omitted_iff node := by
    obtain ⟨field, hfield, _, _, _, _, _, hrewire⟩ := record?_toJson node
    simp [format, follow?_singleton, field?_of_record? hfield, hrewire]

end Node

namespace Source

/-- How sources are stored. -/
def format : RecordFormat Source where
  ofJson? := ofJson?
  toJson := toJson
  optionals :=
    [([(fieldNames, "previousNodeOutput")], (·.previousNodeOutput.isSome)),
      ([(fieldNames, "previousNodeRun")], (·.previousNodeRun.isSome))]

theorem survives : format.Survives where
  reread := rereads
  absent_iff json source hread := by
    obtain ⟨field, hfield, _, houtput, hrun⟩ := ofJson?_eq_some_iff.1 hread
    simp only [format, List.forall_mem_cons, follow?_singleton, field?_of_record? hfield]
    exact ⟨optional_none_iff houtput, optional_none_iff hrun, List.forall_mem_nil _⟩
  omitted_iff source := by
    obtain ⟨field, hfield, _, houtput, hrun⟩ := record?_toJson source
    simp [format, follow?_singleton, field?_of_record? hfield, houtput, hrun]

end Source

namespace Run

/-- How runs are stored. -/
def format : RecordFormat Run where
  ofJson? := ofJson?
  toJson := toJson
  optionals :=
    [([(fieldNames, "inputOverride")], (·.inputOverride.isSome)),
      ([(fieldNames, "data")], (·.data.isSome))]

theorem survives : format.Survives where
  reread := rereads
  absent_iff json run hread := by
    obtain ⟨field, hfield, _, _, _, _, hinput, hdata⟩ := ofJson?_eq_some_iff.1 hread
    simp only [format, List.forall_mem_cons, follow?_singleton, field?_of_record? hfield]
    exact ⟨optional_none_iff hinput, optional_none_iff hdata, List.forall_mem_nil _⟩
  omitted_iff run := by
    obtain ⟨field, hfield, _, _, _, _, hinput, hdata⟩ := record?_toJson run
    simp [format, follow?_singleton, field?_of_record? hfield, hinput, hdata]

end Run

namespace StackEntry

/-- How stack entries are stored. -/
def format : RecordFormat StackEntry where
  ofJson? := ofJson?
  toJson := toJson
  optionals := [([(fieldNames, "source")], (·.source.isSome))]

theorem survives : format.Survives where
  reread := rereads
  absent_iff json entry hread := by
    obtain ⟨field, hfield, _, _, hsource⟩ := ofJson?_eq_some_iff.1 hread
    simp only [format, List.forall_mem_singleton, follow?_singleton, field?_of_record? hfield]
    exact optional_none_iff hsource
  omitted_iff entry := by
    obtain ⟨field, hfield, _, _, hsource⟩ := record?_toJson entry
    simp [format, follow?_singleton, field?_of_record? hfield, hsource]

end StackEntry

namespace ResultData

/-- How results are stored. -/
def format : RecordFormat ResultData where
  ofJson? := ofJson?
  toJson := toJson
  optionals :=
    [([(fieldNames, "lastNodeExecuted")], (·.lastNodeExecuted.isSome)),
      ([(fieldNames, "error")], (·.error.isSome))]

theorem survives : format.Survives where
  reread := rereads
  absent_iff json results hread := by
    obtain ⟨field, hfield, _, hnode, herror⟩ := ofJson?_eq_some_iff.1 hread
    simp only [format, List.forall_mem_cons, follow?_singleton, field?_of_record? hfield]
    exact ⟨optional_none_iff hnode, optional_none_iff herror, List.forall_mem_nil _⟩
  omitted_iff results := by
    obtain ⟨field, hfield, _, hnode, herror⟩ := record?_toJson results
    simp [format, follow?_singleton, field?_of_record? hfield, hnode, herror]

end ResultData

namespace ExecutionData

/-- How execution data is stored. -/
def format : RecordFormat ExecutionData where
  ofJson? := ofJson?
  toJson := toJson
  optionals :=
    ([(fieldNames, "executionData")], (·.nodeStack.isSome)) ::
      ([(fieldNames, "waitTill")], (·.waitTill.isSome)) ::
      ResultData.format.optionalsIn fieldNames "resultData" (·.resultData)

theorem survives : format.Survives where
  reread := rereads
  absent_iff json data hread := by
    obtain ⟨field, hfield, hresults, hstack, htill, _⟩ := ofJson?_eq_some_iff.1 hread
    simp only [format, List.forall_mem_cons, follow?_singleton, field?_of_record? hfield]
    exact ⟨optional_none_iff hstack, optional_none_iff htill,
      ResultData.survives.absent_iff_in (by decide) hfield hresults⟩
  omitted_iff data := by
    obtain ⟨field, hfield, hresults, hstack, htill, _⟩ := record?_toJson data
    simp only [format, List.forall_mem_cons, follow?_singleton, field?_of_record? hfield, hstack,
      htill]
    exact ⟨by simp, by simp, ResultData.survives.omitted_iff_in hfield hresults⟩

end ExecutionData

namespace Execution

/-- How executions are stored. -/
def format : RecordFormat Execution where
  ofJson? := ofJson?
  toJson := toJson
  optionals := ExecutionData.format.optionalsIn fieldNames "data" (·.data)

theorem survives : format.Survives where
  reread := rereads
  absent_iff json execution hread := by
    obtain ⟨field, hfield, _, _, _, _, _, hdata⟩ := ofJson?_eq_some_iff.1 hread
    exact ExecutionData.survives.absent_iff_in (by decide) hfield hdata
  omitted_iff execution := by
    obtain ⟨field, hfield, _, _, _, _, _, hdata⟩ := record?_toJson execution
    exact ExecutionData.survives.omitted_iff_in hfield hdata

end Execution

/-! ## Null and false -/

namespace Json

/-- The item of an array at an index. -/
def item? : Json → Nat → Option Json
  | .array items, index => items[index]?
  | _, _ => none

end Json

namespace Snapshot

/-- The pinned output of a node in a document; of two pins of one node the later one counts. -/
def pin? (json : Json) (nodeName : String) : Option Json :=
  (json.field? fieldNames "pinData").bind (·.lastMember? nodeName)

/-- `KeepsNulls json written` says the version of a workflow and the null among its pins are the
same in both documents. -/
structure KeepsNulls (json written : Json) : Prop where
  /-- A version that is absent, null or a text stays so. -/
  version : written.field? fieldNames "activeVersionId" = json.field? fieldNames "activeVersionId"
  pins : ∀ nodeName, pin? written nodeName = some .null ↔ pin? json nodeName = some .null

theorem keepsNulls_of_relates {json written : Json} (h : layout.Relates json written) :
    KeepsNulls json written where
  version := by
    have hversion : Unchanged (json.field? fieldNames "activeVersionId")
        (written.field? fieldNames "activeVersionId") := h.field (by simp [layout])
    exact hversion
  pins nodeName := by
    have hpins : MembersOf Same (json.field? fieldNames "pinData")
        (written.field? fieldNames "pinData") := h.field (by simp [layout])
    have hpin : Option.Rel Same (pin? json nodeName) (pin? written nodeName) := hpins nodeName
    generalize pin? json nodeName = pin, pin? written nodeName = writtenPin at hpin ⊢
    cases hpin with
    | none => exact .rfl
    | some hsame => simp [hsame.eq_null_iff]

end Snapshot

namespace Execution

/-- The path to the error in the document of an execution. -/
def errorPath : List (List String × String) :=
  [(fieldNames, "data"), (ExecutionData.fieldNames, "resultData"),
    (ResultData.fieldNames, "error")]

/-- The path to the stack in the document of an execution. -/
def stackPath : List (List String × String) :=
  [(fieldNames, "data"), (ExecutionData.fieldNames, "executionData"),
    (StackEntry.stackFieldNames, "nodeExecutionStack")]

/-- An entry of the stack in the document of an execution. -/
def stackItem? (json : Json) (index : Nat) : Option Json :=
  (json.follow? stackPath).bind (·.item? index)

/-- `KeepsNulls json written` says null and truth values with a meaning of their own are the same
in both documents of an execution. -/
structure KeepsNulls (json written : Json) : Prop where
  workflow : ∃ workflow writtenWorkflow, json.field? fieldNames "workflowData" = some workflow ∧
    written.field? fieldNames "workflowData" = some writtenWorkflow ∧
    Snapshot.KeepsNulls workflow writtenWorkflow
  /-- The data of a stack entry is written as null exactly where it was absent or null. -/
  stackData : ∀ index,
    (stackItem? written index).bind (·.field? StackEntry.fieldNames "data") = some .null ↔
      ∃ entry, stackItem? json index = some entry ∧
        (entry.field? StackEntry.fieldNames "data").all isNull = true
  /-- An error that is a truth value is written as this one. -/
  error : ∀ truth, written.follow? errorPath = some (.bool truth) ↔
    json.follow? errorPath = some (.bool truth)

variable {json written : Json}

theorem error_of_relates (h : layout.Relates json written) :
    Optional Same (json.follow? errorPath) (written.follow? errorPath) := by
  have hdata : WithDefault ExecutionData.layout.Relates ExecutionData.emptyDocument
      (json.field? fieldNames "data") (written.field? fieldNames "data") :=
    h.field (by simp [layout])
  refine hdata.follow (Optional Same) .absent fun data writtenData hdata ↦ ?_
  have hresults : WithDefault ResultData.layout.Relates ResultData.emptyDocument
      (data.field? ExecutionData.fieldNames "resultData")
      (writtenData.field? ExecutionData.fieldNames "resultData") :=
    hdata.field (by simp [ExecutionData.layout])
  refine hresults.follow (Optional Same) .absent fun results writtenResults hresults ↦ ?_
  rw [follow?_singleton, follow?_singleton]
  exact hresults.field (by simp [ResultData.layout])

/-- The entries of the stacks are related one by one. -/
theorem stackItem?_of_relates (h : layout.Relates json written) (index : Nat) :
    Option.Rel StackEntry.layout.Relates (stackItem? json index) (stackItem? written index) := by
  let rule : FieldRule := fun field written ↦
    Option.Rel StackEntry.layout.Relates (field.bind (·.item? index)) (written.bind (·.item? index))
  have hdata : WithDefault ExecutionData.layout.Relates ExecutionData.emptyDocument
      (json.field? fieldNames "data") (written.field? fieldNames "data") :=
    h.field (by simp [layout])
  refine hdata.follow rule .none fun data writtenData hdata ↦ ?_
  have hstack : Optional StackEntry.stackLayout.Relates
      (data.field? ExecutionData.fieldNames "executionData")
      (writtenData.field? ExecutionData.fieldNames "executionData") :=
    hdata.field (by simp [ExecutionData.layout])
  refine hstack.follow rule .none .none fun stack writtenStack hstack ↦ ?_
  have hentries : WithDefault (Items StackEntry.layout.Relates) (.array [])
      (stack.field? StackEntry.stackFieldNames "nodeExecutionStack")
      (writtenStack.field? StackEntry.stackFieldNames "nodeExecutionStack") :=
    hstack.field (by simp [StackEntry.stackLayout])
  refine hentries.follow rule .none fun entries writtenEntries hitems ↦ ?_
  cases hitems with
  | array h => exact h index

theorem keepsNulls_of_relates (h : layout.Relates json written) : KeepsNulls json written where
  workflow := by
    have hworkflow : Required Snapshot.layout.Relates (json.field? fieldNames "workflowData")
        (written.field? fieldNames "workflowData") := h.field (by simp [layout])
    generalize json.field? fieldNames "workflowData" = field,
      written.field? fieldNames "workflowData" = writtenField at hworkflow ⊢
    cases hworkflow with
    | given h => exact ⟨_, _, rfl, rfl, Snapshot.keepsNulls_of_relates h⟩
  stackData index := by
    have hentry := stackItem?_of_relates h index
    generalize stackItem? json index = entry, stackItem? written index = writtenEntry
      at hentry ⊢
    cases hentry with
    | none => simp
    | @some entry writtenEntry hentry =>
        have hdata : WithDefault Same .null (entry.field? StackEntry.fieldNames "data")
            (writtenEntry.field? StackEntry.fieldNames "data") :=
          hentry.field (by simp [StackEntry.layout])
        simp only [Option.bind_some, Option.some.injEq, exists_eq_left']
        generalize entry.field? StackEntry.fieldNames "data" = field,
          writtenEntry.field? StackEntry.fieldNames "data" = writtenField at hdata ⊢
        cases hdata with
        | absent => simp
        | @given data _ hsame =>
            rw [Option.some_inj, hsame.eq_null_iff, Option.all_some]
            cases data <;> simp [isNull]
  error truth := by
    have herror := error_of_relates h
    generalize json.follow? errorPath = field, written.follow? errorPath = writtenField
      at herror ⊢
    cases herror with
    | absent => exact .rfl
    | null => simp
    | given _ hsame => simp [hsame.eq_bool_iff]

end Execution

/-! ## Stored records -/

/-- Executions and workflows are read again as they were written, whatever form their document had,
and the document they are written to says the same in every field: what was there is kept in its one
form, what was absent has its default. Null and `false` are kept where they have a meaning of their
own. In each kind of record a field that needs no value has none, and is left out, exactly if it was
absent or null. -/
theorem stored_records_survive :
    (∀ json execution, Execution.ofJson? json = some execution →
      Execution.ofJson? execution.toJson = some execution ∧
      Execution.layout.Relates json execution.toJson ∧
      Execution.KeepsNulls json execution.toJson) ∧
    (∀ json snapshot, Snapshot.ofJson? json = some snapshot →
      Snapshot.ofJson? snapshot.toJson = some snapshot ∧
      Snapshot.layout.Relates json snapshot.toJson ∧
      Snapshot.KeepsNulls json snapshot.toJson) ∧
    Execution.format.Survives ∧ ExecutionData.format.Survives ∧ ResultData.format.Survives ∧
      StackEntry.format.Survives ∧ Run.format.Survives ∧ Source.format.Survives ∧
      Node.format.Survives := by
  refine ⟨fun json execution hread ↦ ?_, fun json snapshot hread ↦ ?_, Execution.survives,
    ExecutionData.survives, ResultData.survives, StackEntry.survives, Run.survives,
    Source.survives, Node.survives⟩
  · have hrelates := Execution.rewrites json execution hread
    exact ⟨Execution.rereads json execution hread, hrelates,
      Execution.keepsNulls_of_relates hrelates⟩
  · have hrelates := Snapshot.rewrites json snapshot hread
    exact ⟨snapshot.ofJson?_toJson, hrelates, Snapshot.keepsNulls_of_relates hrelates⟩

/-- The workflow of `mixedExecution`: its version and a pin are null. -/
def mixedWorkflow : Json :=
  .object [("pinData", .object [("Wait", .null)]), ("activeVersionId", .null), ("id", .string "w")]

/-- The version 1.1 of a node type. -/
def waitVersion : Json := .number (.real ⟨false, 4607632778762754458, by decide⟩)

/-- An execution whose records are objects and arrays, with null in many places. -/
def mixedExecution : Json :=
  .array [.string "42", .object [("waiting", .null)], .bool false, .string "webhook",
    mixedWorkflow,
    .object [
      ("resultData", .array [
        .object [("Wait", .array [.object [("source", .array [.null, .array [.string "A"]]),
          ("executionTime", .number (.integer 5)), ("startTime", .number (.integer (-1))),
          ("data", .null)]])],
        .null, .bool false]),
      ("executionData", .array [.array [
        .object [("node", .array [.string "Wait", .string "waypost.wait", waitVersion]),
          ("data", .null)]]]),
      ("waitTill", .string "2016-12-31T23:59:60.5-01:30")]]

/-- The same execution as it is written. -/
def writtenExecution : Json :=
  .object [("id", .string "42"), ("status", .string "waiting"), ("finished", .bool false),
    ("mode", .string "webhook"),
    ("workflowData", .object [("id", .string "w"), ("name", .string ""), ("nodes", .array []),
      ("active", .bool false), ("activeVersionId", .null),
      ("pinData", .object [("Wait", .null)])]),
    ("data", .object [
      ("resultData", .object [
        ("runData", .object [("Wait", .array [.object [("startTime", .number (.integer (-1))),
          ("executionTime", .number (.integer 5)), ("executionIndex", .number (.integer 0)),
          ("source", .array [.null, .object [("previousNode", .string "A")]])]])]),
        ("error", .bool false)]),
      ("executionData", .object [("nodeExecutionStack", .array [.object [
        ("node", .object [("name", .string "Wait"), ("type", .string "waypost.wait"),
          ("typeVersion", waitVersion), ("parameters", .object []),
          ("disabled", .bool false)]),
        ("data", .null)]])]),
      ("waitTill", .string "2017-01-01T01:29:60.500Z"), ("validateSignature", .bool false)])]

/-- The execution is written with its status, its runs, its leap second and its error, null stays
where it was in its workflow and in its stack, and it is read again. -/
theorem mixedExecution_survives :
    ∃ execution, Execution.ofJson? mixedExecution = some execution ∧
      execution.toJson = writtenExecution ∧
      Execution.ofJson? writtenExecution = some execution ∧
      Execution.layout.Relates mixedExecution writtenExecution ∧
      Execution.KeepsNulls mixedExecution writtenExecution ∧
      execution.workflowData.toJson.field? Snapshot.fieldNames "activeVersionId" = some .null ∧
      Snapshot.pin? execution.workflowData.toJson "Wait" = some .null := by
  obtain ⟨hexecutions, hsnapshots, _⟩ := stored_records_survive
  have hread : ∃ execution, Execution.ofJson? mixedExecution = some execution ∧
      execution.toJson = writtenExecution := ⟨_, rfl, rfl⟩
  obtain ⟨execution, hexecution, hwritten⟩ := hread
  have hworkflow : Snapshot.ofJson? mixedWorkflow = some execution.workflowData :=
    congrArg (Option.map Execution.workflowData) hexecution
  obtain ⟨hreread, hrelates, hnulls⟩ := hexecutions mixedExecution execution hexecution
  obtain ⟨_, _, hworkflowNulls⟩ := hsnapshots mixedWorkflow execution.workflowData hworkflow
  rw [hwritten] at hreread hrelates hnulls
  exact ⟨execution, hexecution, hwritten, hreread, hrelates, hnulls, hworkflowNulls.version,
    (hworkflowNulls.pins "Wait").2 rfl⟩

end FlowGate
