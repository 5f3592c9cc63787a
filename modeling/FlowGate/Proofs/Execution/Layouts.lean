import FlowGate.Proofs.Execution.Stored
import FlowGate.Proofs.Json.Layout

/-!
# The layouts of stored records

For every kind of stored record a `Json.Layout` lists the fields with what rewriting does to them,
and a lemma says that a record that was read is written to a document that is related to the first
one by the layout. The records inside an execution are treated from the innermost outwards;
`Execution.rewrites` is about whole executions and `Snapshot.rewrites` about whole workflows.
-/

namespace FlowGate

open Json

/-! ## Workflows -/

namespace Node

/-- The fields of a node and what rewriting does to them. -/
def layout : Layout :=
  [("name", Required Same), ("type", Required Same),
    ("typeVersion", WithDefault SameReal (.number (.real .one))),
    ("parameters", WithDefault (Members Same) (.object [])),
    ("disabled", WithDefault Same (.bool false)), ("rewireOutputLogTo", Optional SameName)]

theorem rewrites_connection :
    Rewrites SameName (choice? connectionNames) (.string ∘ connectionName) :=
  rewrites_choice (by decide)

theorem rewrites : Rewrites layout.Relates ofJson? toJson := by
  intro json node hread
  obtain ⟨field, hfield, hname, htype, hversion, hparameters, hdisabled, hrewire⟩ :=
    ofJson?_eq_some_iff.1 hread
  obtain ⟨written, hwritten, hname', htype', hversion', hparameters', hdisabled', hrewire'⟩ :=
    record?_toJson node
  refine ⟨field, written, hfield, hwritten, ?_⟩
  simp only [layout, List.forall_mem_cons]
  exact ⟨rewrites_string.required hname hname', rewrites_string.required htype htype',
    rewrites_real.withDefault hversion hversion',
    rewrites_value.table.withDefault hparameters hparameters',
    rewrites_bool.withDefault hdisabled hdisabled',
    rewrites_connection.optional hrewire hrewire', List.forall_mem_nil _⟩

end Node

namespace Snapshot

/-- The fields of a workflow and what rewriting does to them. -/
def layout : Layout :=
  [("id", Required Same), ("name", WithDefault Same (.string "")),
    ("nodes", WithDefault (Items Node.layout.Relates) (.array [])),
    ("active", WithDefault Same (.bool false)),
    ("activeVersionId", Unchanged), ("pinData", MembersOf Same)]

/-- The pins are written by name, or not at all if there are none. -/
theorem membersOf_pinData {field written : Option Json} {pins : Table Value}
    (hread : withDefault .empty (table? toValue?) field = some pins)
    (hwritten : written = if pins.isEmpty then none else some (ofTable Value.json pins)) :
    MembersOf Same field written := by
  intro name
  have hmembers : written.bind (·.lastMember? name) = (pins.get? name).map Value.json := by
    rw [hwritten]
    split
    next hempty =>
      have hentries : pins = .empty := Table.ext (List.isEmpty_iff.1 hempty)
      rw [hentries]
      rfl
    next => exact lastMember?_ofTable Value.json pins name
  rw [hmembers]
  cases field with
  | none =>
      cases hread
      exact .none
  | some json =>
      exact rel_map (rel_lastMember?_of_table? hread name) fun pin _ value hpin ↦
        rewrites_value pin value hpin

theorem rewrites : Rewrites layout.Relates ofJson? toJson := by
  intro json snapshot hread
  obtain ⟨field, hfield, hid, hname, hnodes, hactive, hversion, hpins⟩ :=
    ofJson?_eq_some_iff.1 hread
  obtain ⟨written, hwritten, hid', hname', hnodes', hactive', hversion', hpins'⟩ :=
    record?_toJson snapshot
  refine ⟨field, written, hfield, hwritten, ?_⟩
  simp only [layout, List.forall_mem_cons]
  exact ⟨rewrites_string.required hid hid', rewrites_string.withDefault hname hname',
    Node.rewrites.list.withDefault hnodes hnodes', rewrites_bool.withDefault hactive hactive',
    hversion'.trans (versionField?_eq_some hversion), membersOf_pinData hpins hpins',
    List.forall_mem_nil _⟩

end Snapshot

/-! ## Numbers -/

namespace Json

theorem eq_integer_of_integer? {json : Json} {value : Int} (h : json.integer? = some value) :
    json = .number (.integer value) := by
  match json, h with
  | .number (.integer value), h =>
      cases h
      rfl

theorem rewrites_uint32 : Rewrites Same uint32? ofUInt32 := by
  intro json value h
  obtain ⟨integer, hinteger, h⟩ := Option.bind_eq_some_iff.1 h
  rw [Option.ite_none_right_eq_some, Option.some.injEq] at h
  obtain ⟨⟨hnonneg, hlt⟩, rfl⟩ := h
  have hvalue : ((UInt32.ofNat integer.toNat).toNat : Int) = integer := by
    rw [UInt32.toNat_ofNat_of_lt' (by omega), Int.toNat_of_nonneg hnonneg]
  rw [eq_integer_of_integer? hinteger, ofUInt32, ofNat, hvalue]
  exact .number _

theorem rewrites_int64 : Rewrites Same int64? ofInt64 := by
  intro json value h
  obtain ⟨integer, hinteger, h⟩ := Option.bind_eq_some_iff.1 h
  rw [Option.ite_none_right_eq_some, Option.some.injEq] at h
  obtain ⟨⟨hle, hge⟩, rfl⟩ := h
  have hvalue : (Int64.ofInt integer).toInt = integer :=
    Int64.toInt_ofInt_of_le hle (Int.lt_add_one_of_le hge)
  rw [eq_integer_of_integer? hinteger, ofInt64, hvalue]
  exact .number _

end Json

/-! ## Executions -/

namespace Source

/-- The fields of a source and what rewriting does to them. -/
def layout : Layout :=
  [("previousNode", Required Same), ("previousNodeOutput", Optional Same),
    ("previousNodeRun", Optional Same)]

theorem rewrites : Rewrites layout.Relates ofJson? toJson := by
  intro json source hread
  obtain ⟨field, hfield, hnode, houtput, hrun⟩ := ofJson?_eq_some_iff.1 hread
  obtain ⟨written, hwritten, hnode', houtput', hrun'⟩ := record?_toJson source
  refine ⟨field, written, hfield, hwritten, ?_⟩
  simp only [layout, List.forall_mem_cons]
  exact ⟨rewrites_string.required hnode hnode', rewrites_uint32.optional houtput houtput',
    rewrites_uint32.optional hrun hrun', List.forall_mem_nil _⟩

/-- Null in place of a source is kept. -/
theorem rewrites_option : Rewrites (Nullable layout.Relates) optionOfJson? (ofOption toJson) := by
  intro json source hread
  unfold optionOfJson? at hread
  split at hread
  · cases hread
    exact .null
  next hvalue =>
    obtain ⟨source, hsource, rfl⟩ := Option.map_eq_some_iff.1 hread
    exact .given hvalue (rewrites json source hsource)

end Source

namespace Run

/-- The fields of a run and what rewriting does to them. -/
def layout : Layout :=
  [("startTime", Required Same), ("executionTime", Required Same),
    ("executionIndex", WithDefault Same (.number (.integer 0))),
    ("source", WithDefault (Items (Nullable Source.layout.Relates)) (.array [])),
    ("inputOverride", Optional Same), ("data", Optional Same)]

theorem rewrites : Rewrites layout.Relates ofJson? toJson := by
  intro json run hread
  obtain ⟨field, hfield, hstart, htime, hindex, hsource, hinput, hdata⟩ :=
    ofJson?_eq_some_iff.1 hread
  obtain ⟨written, hwritten, hstart', htime', hindex', hsource', hinput', hdata'⟩ :=
    record?_toJson run
  refine ⟨field, written, hfield, hwritten, ?_⟩
  simp only [layout, List.forall_mem_cons]
  exact ⟨rewrites_int64.required hstart hstart', rewrites_int64.required htime htime',
    rewrites_uint32.withDefault hindex hindex',
    Source.rewrites_option.list.withDefault hsource hsource',
    rewrites_value.optional hinput hinput', rewrites_value.optional hdata hdata',
    List.forall_mem_nil _⟩

end Run

namespace StackEntry

/-- The fields of a stack entry and what rewriting does to them. -/
def layout : Layout :=
  [("node", Required Node.layout.Relates), ("data", WithDefault Same .null),
    ("source", Optional Same)]

/-- The only field of a stack and what rewriting does to it. -/
def stackLayout : Layout :=
  [("nodeExecutionStack", WithDefault (Items layout.Relates) (.array []))]

theorem rewrites : Rewrites layout.Relates ofJson? toJson := by
  intro json entry hread
  obtain ⟨field, hfield, hnode, hdata, hsource⟩ := ofJson?_eq_some_iff.1 hread
  obtain ⟨written, hwritten, hnode', hdata', hsource'⟩ := record?_toJson entry
  refine ⟨field, written, hfield, hwritten, ?_⟩
  simp only [layout, List.forall_mem_cons]
  exact ⟨Node.rewrites.required hnode hnode', rewrites_value.withDefault hdata hdata',
    rewrites_value.optional hsource hsource', List.forall_mem_nil _⟩

theorem rewrites_stack : Rewrites stackLayout.Relates stackOfJson? stackToJson := by
  intro json stack hread
  obtain ⟨field, hfield, hstack⟩ := stackOfJson?_eq_some_iff.1 hread
  obtain ⟨written, hwritten, hstack'⟩ := record?_stackToJson stack
  refine ⟨field, written, hfield, hwritten, ?_⟩
  simp only [stackLayout, List.forall_mem_cons]
  exact ⟨rewrites.list.withDefault hstack hstack', List.forall_mem_nil _⟩

end StackEntry

namespace ResultData

/-- The document that is written for results that were absent. -/
def emptyDocument : Json := .object [("runData", .object [])]

/-- The fields of results and what rewriting does to them. -/
def layout : Layout :=
  [("runData", WithDefault (Members (Items Run.layout.Relates)) (.object [])),
    ("lastNodeExecuted", Optional Same), ("error", Optional Same)]

theorem rewrites : Rewrites layout.Relates ofJson? toJson := by
  intro json results hread
  obtain ⟨field, hfield, hruns, hnode, herror⟩ := ofJson?_eq_some_iff.1 hread
  obtain ⟨written, hwritten, hruns', hnode', herror'⟩ := record?_toJson results
  refine ⟨field, written, hfield, hwritten, ?_⟩
  simp only [layout, List.forall_mem_cons]
  exact ⟨Run.rewrites.list.table.withDefault hruns hruns', rewrites_string.optional hnode hnode',
    rewrites_value.optional herror herror', List.forall_mem_nil _⟩

end ResultData

namespace ExecutionData

/-- A time is written in the one form of its instant. -/
inductive SameInstant : Json → Json → Prop where
  | text {text : String} {instant : Instant} (h : Instant.read? text = some instant) :
      SameInstant (.string text) (.string instant.text)

/-- The document that is written for data that was absent. -/
def emptyDocument : Json :=
  .object [("resultData", ResultData.emptyDocument), ("validateSignature", .bool false)]

/-- The fields of execution data and what rewriting does to them. -/
def layout : Layout :=
  [("resultData", WithDefault ResultData.layout.Relates ResultData.emptyDocument),
    ("executionData", Optional StackEntry.stackLayout.Relates), ("waitTill", Optional SameInstant),
    ("validateSignature", WithDefault Same (.bool false))]

theorem rewrites_waitTill :
    Rewrites SameInstant (fun json ↦ json.string?.bind Instant.read?) (.string ∘ Instant.text) := by
  intro json instant h
  match json, h with
  | .string _, h => exact .text h

theorem rewrites : Rewrites layout.Relates ofJson? toJson := by
  intro json data hread
  obtain ⟨field, hfield, hresults, hstack, htill, hsignature⟩ := ofJson?_eq_some_iff.1 hread
  obtain ⟨written, hwritten, hresults', hstack', htill', hsignature'⟩ := record?_toJson data
  refine ⟨field, written, hfield, hwritten, ?_⟩
  simp only [layout, List.forall_mem_cons]
  exact ⟨ResultData.rewrites.withDefault hresults hresults',
    StackEntry.rewrites_stack.optional hstack hstack', rewrites_waitTill.optional htill htill',
    rewrites_bool.withDefault hsignature hsignature', List.forall_mem_nil _⟩

end ExecutionData

namespace Execution

/-- The fields of an execution and what rewriting does to them. -/
def layout : Layout :=
  [("id", Required Same), ("status", Required SameName),
    ("finished", WithDefault Same (.bool false)),
    ("mode", WithDefault SameName (.string "trigger")),
    ("workflowData", Required Snapshot.layout.Relates),
    ("data", WithDefault ExecutionData.layout.Relates ExecutionData.emptyDocument)]

theorem rewrites_status :
    Rewrites SameName (choice? ExecutionStatus.choices) (.string ∘ ExecutionStatus.name) :=
  rewrites_choice (by decide)

theorem rewrites_mode :
    Rewrites SameName (choice? ExecutionMode.choices) (.string ∘ ExecutionMode.name) :=
  rewrites_choice (by decide)

/-- An execution that was read is written to a document that says the same in every field. -/
theorem rewrites : Rewrites layout.Relates ofJson? toJson := by
  intro json execution hread
  obtain ⟨field, hfield, hid, hstatus, hfinished, hmode, hworkflow, hdata⟩ :=
    ofJson?_eq_some_iff.1 hread
  obtain ⟨written, hwritten, hid', hstatus', hfinished', hmode', hworkflow', hdata'⟩ :=
    record?_toJson execution
  refine ⟨field, written, hfield, hwritten, ?_⟩
  simp only [layout, List.forall_mem_cons]
  exact ⟨rewrites_string.required hid hid', rewrites_status.required hstatus hstatus',
    rewrites_bool.withDefault hfinished hfinished', rewrites_mode.withDefault hmode hmode',
    Snapshot.rewrites.required hworkflow hworkflow',
    ExecutionData.rewrites.withDefault hdata hdata', List.forall_mem_nil _⟩

end Execution

end FlowGate
