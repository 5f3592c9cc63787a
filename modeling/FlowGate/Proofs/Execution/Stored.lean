import FlowGate.Execution.Codec
import FlowGate.Proofs.Calendar.Timestamp
import FlowGate.Proofs.Workflow.Stored

/-!
# Stored executions

What was read as an execution is written to a document that is read as the same execution
(`Execution.rereads`). The records inside an execution are treated from the innermost outwards; for
each of them one lemma gives its fields from those of the document that it is read from, and one the
fields of the document that it is written to.
-/

namespace FlowGate

open Json

/-! ## Numbers and names -/

namespace Json

theorem uint32?_ofUInt32 (value : UInt32) : uint32? (ofUInt32 value) = some value := by
  have hsize : (value.toNat : Int) < UInt32.size := Int.ofNat_lt.2 value.toNat_lt_size
  have hinteger : (ofUInt32 value).integer? = some (value.toNat : Int) := rfl
  rw [uint32?, hinteger, Option.bind_eq_bind, Option.bind_some,
    if_pos ⟨Int.natCast_nonneg _, hsize⟩, Int.toNat_natCast, UInt32.ofNat_toNat]

theorem int64?_ofInt64 (value : Int64) : int64? (ofInt64 value) = some value := by
  have hinteger : (ofInt64 value).integer? = some value.toInt := rfl
  rw [int64?, hinteger, Option.bind_eq_bind, Option.bind_some,
    if_pos ⟨value.minValue_le_toInt, value.toInt_le⟩, Int64.ofInt_toInt]

theorem rereads_uint32 : Rereads uint32? ofUInt32 := rereads_of_forall uint32?_ofUInt32

theorem rereads_int64 : Rereads int64? ofInt64 := rereads_of_forall int64?_ofInt64

end Json

theorem ExecutionStatus.lookup_name (status : ExecutionStatus) :
    choices.lookup status.name = some status := by
  cases status <;> rfl

theorem ExecutionMode.lookup_name (mode : ExecutionMode) :
    choices.lookup mode.name = some mode := by
  cases mode <;> rfl

/-! ## Sources and runs -/

namespace Source

variable {json : Json} {source : Source}

/-- The fields of a stored source, in order. -/
def fieldNames : List String := ["previousNode", "previousNodeOutput", "previousNodeRun"]

/-- A source is read field by field. -/
theorem ofJson?_eq_some_iff :
    ofJson? json = some source ↔ ∃ field, json.record? fieldNames = some field ∧
      required string? (field "previousNode") = some source.previousNode ∧
      Json.optional uint32? (field "previousNodeOutput") = some source.previousNodeOutput ∧
      Json.optional uint32? (field "previousNodeRun") = some source.previousNodeRun := by
  simp only [ofJson?, Option.bind_eq_bind, Option.bind_eq_some_iff, Option.pure_def,
    Option.some.injEq]
  constructor
  · intro hread
    obtain ⟨field, hfield, node, hnode, output, houtput, run, hrun, rfl⟩ := hread
    exact ⟨field, hfield, hnode, houtput, hrun⟩
  · intro hread
    obtain ⟨field, hfield, hnode, houtput, hrun⟩ := hread
    exact ⟨field, hfield, _, hnode, _, houtput, _, hrun, rfl⟩

/-- The fields of a source as a document. -/
theorem record?_toJson (source : Source) :
    ∃ field, source.toJson.record? fieldNames = some field ∧
      field "previousNode" = some (.string source.previousNode) ∧
      field "previousNodeOutput" = source.previousNodeOutput.map ofUInt32 ∧
      field "previousNodeRun" = source.previousNodeRun.map ofUInt32 := by
  refine ⟨_, record?_object_of_sublist (by decide) ?_, ?_⟩
  · rw [List.map_append, List.map_append]
    exact ((List.Sublist.refl _).append (omitNone_sublist _ _ _)).append (omitNone_sublist _ _ _)
  · simp [Table.lookup_cons_entry, lookup_omitNone, List.lookup_append]

theorem rereads : Rereads ofJson? toJson := by
  intro json source hread
  obtain ⟨field, _, hnode, houtput, hrun⟩ := ofJson?_eq_some_iff.1 hread
  obtain ⟨written, hwritten, hnode', houtput', hrun'⟩ := record?_toJson source
  exact ofJson?_eq_some_iff.2 ⟨written, hwritten,
    required_of_written rereads_string hnode hnode',
    optional_of_written rereads_uint32 (keepsNull_of_forall fun _ ↦ rfl) houtput houtput',
    optional_of_written rereads_uint32 (keepsNull_of_forall fun _ ↦ rfl) hrun hrun'⟩

/-- A source or null is read again. -/
theorem rereads_option : Rereads optionOfJson? (ofOption toJson) := by
  intro json source hread
  cases source with
  | none => rfl
  | some source =>
      unfold optionOfJson? at hread
      split at hread
      · cases hread
      · obtain ⟨_, hsource, heq⟩ := Option.map_eq_some_iff.1 hread
        cases heq
        show (ofJson? source.toJson).map some = some (some source)
        rw [rereads json source hsource, Option.map_some]

end Source

namespace Run

variable {json : Json} {run : Run}

/-- A run is read field by field. -/
theorem ofJson?_eq_some_iff :
    ofJson? json = some run ↔ ∃ field, json.record? fieldNames = some field ∧
      required int64? (field "startTime") = some run.startTime ∧
      required int64? (field "executionTime") = some run.executionTime ∧
      withDefault 0 uint32? (field "executionIndex") = some run.executionIndex ∧
      withDefault [] (list? Source.optionOfJson?) (field "source") = some run.source ∧
      Json.optional toValue? (field "inputOverride") = some run.inputOverride ∧
      Json.optional toValue? (field "data") = some run.data := by
  simp only [ofJson?, Option.bind_eq_bind, Option.bind_eq_some_iff, Option.pure_def,
    Option.some.injEq]
  constructor
  · intro hread
    obtain ⟨field, hfield, start, hstart, time, htime, index, hindex, source, hsource, input,
      hinput, data, hdata, rfl⟩ := hread
    exact ⟨field, hfield, hstart, htime, hindex, hsource, hinput, hdata⟩
  · intro hread
    obtain ⟨field, hfield, hstart, htime, hindex, hsource, hinput, hdata⟩ := hread
    exact ⟨field, hfield, _, hstart, _, htime, _, hindex, _, hsource, _, hinput, _, hdata, rfl⟩

/-- The fields of a run as a document. -/
theorem record?_toJson (run : Run) :
    ∃ field, run.toJson.record? fieldNames = some field ∧
      field "startTime" = some (ofInt64 run.startTime) ∧
      field "executionTime" = some (ofInt64 run.executionTime) ∧
      field "executionIndex" = some (ofUInt32 run.executionIndex) ∧
      field "source" = some (.array (run.source.map (ofOption Source.toJson))) ∧
      field "inputOverride" = run.inputOverride.map Value.json ∧
      field "data" = run.data.map Value.json := by
  refine ⟨_, record?_object_of_sublist (by decide) ?_, ?_⟩
  · rw [List.map_append, List.map_append]
    exact ((List.Sublist.refl _).append (omitNone_sublist _ _ _)).append (omitNone_sublist _ _ _)
  · simp [Table.lookup_cons_entry, lookup_omitNone, List.lookup_append]

theorem rereads : Rereads ofJson? toJson := by
  intro json run hread
  obtain ⟨field, _, hstart, htime, hindex, hsource, hinput, hdata⟩ := ofJson?_eq_some_iff.1 hread
  obtain ⟨written, hwritten, hstart', htime', hindex', hsource', hinput', hdata'⟩ :=
    record?_toJson run
  exact ofJson?_eq_some_iff.2 ⟨written, hwritten,
    required_of_written rereads_int64 hstart hstart',
    required_of_written rereads_int64 htime htime',
    withDefault_of_written rereads_uint32 (uint32?_ofUInt32 0) hindex hindex',
    withDefault_of_written Source.rereads_option.list rfl hsource hsource',
    optional_of_written rereads_value keepsNull_value hinput hinput',
    optional_of_written rereads_value keepsNull_value hdata hdata'⟩

end Run

/-! ## The stack of nodes -/

namespace StackEntry

variable {json : Json} {entry : StackEntry} {stack : List StackEntry}

/-- The fields of a stored stack entry, in order. -/
def fieldNames : List String := ["node", "data", "source"]

/-- The fields of a stored stack, in order. -/
def stackFieldNames : List String := ["nodeExecutionStack"]

/-- A stack entry is read field by field. -/
theorem ofJson?_eq_some_iff :
    ofJson? json = some entry ↔ ∃ field, json.record? fieldNames = some field ∧
      required Node.ofJson? (field "node") = some entry.node ∧
      withDefault .null toValue? (field "data") = some entry.data ∧
      Json.optional toValue? (field "source") = some entry.source := by
  simp only [ofJson?, Option.bind_eq_bind, Option.bind_eq_some_iff, Option.pure_def,
    Option.some.injEq]
  constructor
  · intro hread
    obtain ⟨field, hfield, node, hnode, data, hdata, source, hsource, rfl⟩ := hread
    exact ⟨field, hfield, hnode, hdata, hsource⟩
  · intro hread
    obtain ⟨field, hfield, hnode, hdata, hsource⟩ := hread
    exact ⟨field, hfield, _, hnode, _, hdata, _, hsource, rfl⟩

/-- The fields of a stack entry as a document. -/
theorem record?_toJson (entry : StackEntry) :
    ∃ field, entry.toJson.record? fieldNames = some field ∧
      field "node" = some entry.node.toJson ∧ field "data" = some entry.data.json ∧
      field "source" = entry.source.map Value.json := by
  refine ⟨_, record?_object_of_sublist (by decide) ?_, ?_⟩
  · rw [List.map_append]
    exact (List.Sublist.refl _).append (omitNone_sublist _ _ _)
  · simp [Table.lookup_cons_entry, lookup_omitNone]

theorem rereads : Rereads ofJson? toJson := by
  intro json entry hread
  obtain ⟨field, _, hnode, hdata, hsource⟩ := ofJson?_eq_some_iff.1 hread
  obtain ⟨written, hwritten, hnode', hdata', hsource'⟩ := record?_toJson entry
  exact ofJson?_eq_some_iff.2 ⟨written, hwritten,
    required_of_written (rereads_of_forall Node.ofJson?_toJson) hnode hnode',
    withDefault_of_written rereads_value rfl hdata hdata',
    optional_of_written rereads_value keepsNull_value hsource hsource'⟩

/-- A stack is read from its only field. -/
theorem stackOfJson?_eq_some_iff :
    stackOfJson? json = some stack ↔ ∃ field, json.record? stackFieldNames = some field ∧
      withDefault [] (list? ofJson?) (field "nodeExecutionStack") = some stack := by
  rw [stackOfJson?, Option.bind_eq_bind, Option.bind_eq_some_iff]
  rfl

/-- The only field of a stack as a document. -/
theorem record?_stackToJson (stack : List StackEntry) :
    ∃ field, (stackToJson stack).record? stackFieldNames = some field ∧
      field "nodeExecutionStack" = some (.array (stack.map toJson)) :=
  ⟨_, record?_object_of_sublist (by decide) (List.Sublist.refl _), rfl⟩

theorem rereads_stack : Rereads stackOfJson? stackToJson := by
  intro json stack hread
  obtain ⟨field, _, hstack⟩ := stackOfJson?_eq_some_iff.1 hread
  obtain ⟨written, hwritten, hstack'⟩ := record?_stackToJson stack
  exact stackOfJson?_eq_some_iff.2 ⟨written, hwritten,
    withDefault_of_written rereads.list rfl hstack hstack'⟩

end StackEntry

/-! ## Results and data -/

namespace ResultData

variable {json : Json} {results : ResultData}

/-- The fields of stored results, in order. -/
def fieldNames : List String := ["runData", "lastNodeExecuted", "error"]

/-- Results are read field by field. -/
theorem ofJson?_eq_some_iff :
    ofJson? json = some results ↔ ∃ field, json.record? fieldNames = some field ∧
      withDefault .empty (table? (list? Run.ofJson?)) (field "runData") = some results.runData ∧
      Json.optional string? (field "lastNodeExecuted") = some results.lastNodeExecuted ∧
      Json.optional toValue? (field "error") = some results.error := by
  simp only [ofJson?, Option.bind_eq_bind, Option.bind_eq_some_iff, Option.pure_def,
    Option.some.injEq]
  constructor
  · intro hread
    obtain ⟨field, hfield, runs, hruns, node, hnode, error, herror, rfl⟩ := hread
    exact ⟨field, hfield, hruns, hnode, herror⟩
  · intro hread
    obtain ⟨field, hfield, hruns, hnode, herror⟩ := hread
    exact ⟨field, hfield, _, hruns, _, hnode, _, herror, rfl⟩

/-- The fields of results as a document. -/
theorem record?_toJson (results : ResultData) :
    ∃ field, results.toJson.record? fieldNames = some field ∧
      field "runData" =
        some (ofTable (fun runs ↦ .array (runs.map Run.toJson)) results.runData) ∧
      field "lastNodeExecuted" = results.lastNodeExecuted.map .string ∧
      field "error" = results.error.map Value.json := by
  refine ⟨_, record?_object_of_sublist (by decide) ?_, ?_⟩
  · rw [List.map_append, List.map_append]
    exact ((List.Sublist.refl _).append (omitNone_sublist _ _ _)).append (omitNone_sublist _ _ _)
  · simp [Table.lookup_cons_entry, lookup_omitNone, List.lookup_append]

theorem rereads : Rereads ofJson? toJson := by
  intro json results hread
  obtain ⟨field, _, hruns, hnode, herror⟩ := ofJson?_eq_some_iff.1 hread
  obtain ⟨written, hwritten, hruns', hnode', herror'⟩ := record?_toJson results
  exact ofJson?_eq_some_iff.2 ⟨written, hwritten,
    withDefault_of_written Run.rereads.list.table rfl hruns hruns',
    optional_of_written rereads_string (keepsNull_of_forall fun _ ↦ rfl) hnode hnode',
    optional_of_written rereads_value keepsNull_value herror herror'⟩

end ResultData

namespace ExecutionData

variable {json : Json} {data : ExecutionData}

/-- Execution data is read field by field. -/
theorem ofJson?_eq_some_iff :
    ofJson? json = some data ↔ ∃ field, json.record? fieldNames = some field ∧
      withDefault .empty ResultData.ofJson? (field "resultData") = some data.resultData ∧
      Json.optional StackEntry.stackOfJson? (field "executionData") = some data.nodeStack ∧
      Json.optional (·.string?.bind Instant.read?) (field "waitTill") = some data.waitTill ∧
      withDefault false bool? (field "validateSignature") = some data.validateSignature := by
  simp only [ofJson?, Option.bind_eq_bind, Option.bind_eq_some_iff, Option.pure_def,
    Option.some.injEq]
  constructor
  · intro hread
    obtain ⟨field, hfield, results, hresults, stack, hstack, till, htill, signature, hsignature,
      rfl⟩ := hread
    exact ⟨field, hfield, hresults, hstack, htill, hsignature⟩
  · intro hread
    obtain ⟨field, hfield, hresults, hstack, htill, hsignature⟩ := hread
    exact ⟨field, hfield, _, hresults, _, hstack, _, htill, _, hsignature, rfl⟩

/-- The fields of execution data as a document. -/
theorem record?_toJson (data : ExecutionData) :
    ∃ field, data.toJson.record? fieldNames = some field ∧
      field "resultData" = some data.resultData.toJson ∧
      field "executionData" = data.nodeStack.map StackEntry.stackToJson ∧
      field "waitTill" = data.waitTill.map (.string ∘ Instant.text) ∧
      field "validateSignature" = some (.bool data.validateSignature) := by
  refine ⟨_, record?_object_of_sublist (by decide) ?_, ?_⟩
  · rw [List.map_append, List.map_append, List.map_append]
    exact (((List.Sublist.refl _).append (omitNone_sublist _ _ _)).append
      (omitNone_sublist _ _ _)).append (List.Sublist.refl _)
  · simp [Table.lookup_cons_entry, lookup_omitNone, List.lookup_append]

theorem rereads_waitTill :
    Rereads (fun json ↦ json.string?.bind Instant.read?) (.string ∘ Instant.text) := by
  intro _ instant _
  show (string? (.string instant.text)).bind Instant.read? = some instant
  rw [string?, Option.bind_some, Instant.read?_text]

theorem rereads : Rereads ofJson? toJson := by
  intro json data hread
  obtain ⟨field, _, hresults, hstack, htill, hsignature⟩ := ofJson?_eq_some_iff.1 hread
  obtain ⟨written, hwritten, hresults', hstack', htill', hsignature'⟩ := record?_toJson data
  exact ofJson?_eq_some_iff.2 ⟨written, hwritten,
    withDefault_of_written ResultData.rereads rfl hresults hresults',
    optional_of_written StackEntry.rereads_stack (keepsNull_of_forall fun _ ↦ rfl) hstack hstack',
    optional_of_written rereads_waitTill (keepsNull_of_forall fun _ ↦ rfl) htill htill',
    withDefault_of_written rereads_bool rfl hsignature hsignature'⟩

end ExecutionData

/-! ## Executions -/

namespace Execution

variable {json : Json} {execution : Execution}

/-- An execution is read field by field. -/
theorem ofJson?_eq_some_iff :
    ofJson? json = some execution ↔ ∃ field, json.record? fieldNames = some field ∧
      required string? (field "id") = some execution.id ∧
      required (choice? ExecutionStatus.choices) (field "status") = some execution.status ∧
      withDefault false bool? (field "finished") = some execution.finished ∧
      withDefault .trigger (choice? ExecutionMode.choices) (field "mode") = some execution.mode ∧
      required Snapshot.ofJson? (field "workflowData") = some execution.workflowData ∧
      withDefault .empty ExecutionData.ofJson? (field "data") = some execution.data := by
  simp only [ofJson?, Option.bind_eq_bind, Option.bind_eq_some_iff, Option.pure_def,
    Option.some.injEq]
  constructor
  · intro hread
    obtain ⟨field, hfield, id, hid, status, hstatus, finished, hfinished, mode, hmode, workflow,
      hworkflow, data, hdata, rfl⟩ := hread
    exact ⟨field, hfield, hid, hstatus, hfinished, hmode, hworkflow, hdata⟩
  · intro hread
    obtain ⟨field, hfield, hid, hstatus, hfinished, hmode, hworkflow, hdata⟩ := hread
    exact ⟨field, hfield, _, hid, _, hstatus, _, hfinished, _, hmode, _, hworkflow, _, hdata, rfl⟩

/-- The fields of an execution as a document. -/
theorem record?_toJson (execution : Execution) :
    ∃ field, execution.toJson.record? fieldNames = some field ∧
      field "id" = some (.string execution.id) ∧
      field "status" = some (.string execution.status.name) ∧
      field "finished" = some (.bool execution.finished) ∧
      field "mode" = some (.string execution.mode.name) ∧
      field "workflowData" = some execution.workflowData.toJson ∧
      field "data" = some execution.data.toJson := by
  refine ⟨_, record?_object_of_sublist (by decide) (List.Sublist.refl _), ?_⟩
  simp [Table.lookup_cons_entry]

/-- An execution that was read is read again as it was written. -/
theorem rereads : Rereads ofJson? toJson := by
  intro json execution hread
  obtain ⟨field, _, hid, hstatus, hfinished, hmode, hworkflow, hdata⟩ :=
    ofJson?_eq_some_iff.1 hread
  obtain ⟨written, hwritten, hid', hstatus', hfinished', hmode', hworkflow', hdata'⟩ :=
    record?_toJson execution
  exact ofJson?_eq_some_iff.2 ⟨written, hwritten,
    required_of_written rereads_string hid hid',
    required_of_written (rereads_choice ExecutionStatus.lookup_name) hstatus hstatus',
    withDefault_of_written rereads_bool rfl hfinished hfinished',
    withDefault_of_written (rereads_choice ExecutionMode.lookup_name) rfl hmode hmode',
    required_of_written (rereads_of_forall Snapshot.ofJson?_toJson) hworkflow hworkflow',
    withDefault_of_written ExecutionData.rereads rfl hdata hdata'⟩

end Execution

end FlowGate
