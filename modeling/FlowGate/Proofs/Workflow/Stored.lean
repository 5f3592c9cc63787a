import FlowGate.Proofs.Json.Record
import FlowGate.Workflow.Basic

/-!
# Stored workflows

Nodes and workflows are read again as they were written (`Node.ofJson?_toJson`,
`Snapshot.ofJson?_toJson`). For each kind of record one lemma gives its fields from those of the
document that it is read from, and one the fields of the document that it is written to.
`Snapshot.versionField?_eq_some` says that a version that is absent, null or a text is written as it
was read.
-/

namespace FlowGate

open Json

namespace Node

variable {json : Json} {node : Node}

/-- A node is read field by field. -/
theorem ofJson?_eq_some_iff :
    ofJson? json = some node ↔ ∃ field, json.record? fieldNames = some field ∧
      required string? (field "name") = some node.name ∧
      required string? (field "type") = some node.type ∧
      withDefault defaultTypeVersion real? (field "typeVersion") = some node.typeVersion ∧
      withDefault .empty (table? toValue?) (field "parameters") = some node.parameters ∧
      withDefault false bool? (field "disabled") = some node.disabled ∧
      Json.optional (choice? connectionNames) (field "rewireOutputLogTo") =
        some node.rewireOutputLogTo := by
  simp only [ofJson?, Option.bind_eq_bind, Option.bind_eq_some_iff, Option.pure_def,
    Option.some.injEq]
  constructor
  · intro hread
    obtain ⟨field, hfield, name, hname, type, htype, version, hversion, parameters, hparameters,
      disabled, hdisabled, rewire, hrewire, rfl⟩ := hread
    exact ⟨field, hfield, hname, htype, hversion, hparameters, hdisabled, hrewire⟩
  · intro hread
    obtain ⟨field, hfield, hname, htype, hversion, hparameters, hdisabled, hrewire⟩ := hread
    exact ⟨field, hfield, _, hname, _, htype, _, hversion, _, hparameters, _, hdisabled, _,
      hrewire, rfl⟩

/-- The fields of a node as a document. -/
theorem record?_toJson (node : Node) :
    ∃ field, node.toJson.record? fieldNames = some field ∧
      field "name" = some (.string node.name) ∧ field "type" = some (.string node.type) ∧
      field "typeVersion" = some (.number (.real node.typeVersion)) ∧
      field "parameters" = some (ofTable Value.json node.parameters) ∧
      field "disabled" = some (.bool node.disabled) ∧
      field "rewireOutputLogTo" = node.rewireOutputLogTo.map (.string ∘ connectionName) := by
  refine ⟨_, record?_object_of_sublist (by decide) ?_, ?_⟩
  · rw [List.map_append]
    exact (List.Sublist.refl _).append (omitNone_sublist _ _ _)
  · simp [Table.lookup_cons_entry, lookup_omitNone]

/-- A node is read as it was written. -/
@[simp]
theorem ofJson?_toJson (node : Node) : ofJson? node.toJson = some node := by
  obtain ⟨field, hfield, hname, htype, hversion, hparameters, hdisabled, hrewire⟩ :=
    record?_toJson node
  refine ofJson?_eq_some_iff.2 ⟨field, hfield, ?_, ?_, ?_, ?_, ?_, ?_⟩
  · rw [hname]; rfl
  · rw [htype]; rfl
  · rw [hversion]; rfl
  · rw [hparameters]
    exact table?_ofTable fun entry _ ↦ toValue?_json entry.2
  · rw [hdisabled]; rfl
  · rw [hrewire]
    cases node.rewireOutputLogTo with
    | none => rfl
    | some connection => cases connection <;> rfl

end Node

namespace Snapshot

variable {json : Json} {snapshot : Snapshot}

/-- A workflow is read field by field. -/
theorem ofJson?_eq_some_iff :
    ofJson? json = some snapshot ↔ ∃ field, json.record? fieldNames = some field ∧
      required string? (field "id") = some snapshot.id ∧
      withDefault "" string? (field "name") = some snapshot.name ∧
      withDefault [] (list? Node.ofJson?) (field "nodes") = some snapshot.nodes ∧
      withDefault false bool? (field "active") = some snapshot.active ∧
      versionField? (field "activeVersionId") = some snapshot.activeVersionId ∧
      withDefault .empty (table? toValue?) (field "pinData") = some snapshot.pinData := by
  simp only [ofJson?, Option.bind_eq_bind, Option.bind_eq_some_iff, Option.pure_def,
    Option.some.injEq]
  constructor
  · intro hread
    obtain ⟨field, hfield, id, hid, name, hname, nodes, hnodes, active, hactive, version, hversion,
      pins, hpins, rfl⟩ := hread
    exact ⟨field, hfield, hid, hname, hnodes, hactive, hversion, hpins⟩
  · intro hread
    obtain ⟨field, hfield, hid, hname, hnodes, hactive, hversion, hpins⟩ := hread
    exact ⟨field, hfield, _, hid, _, hname, _, hnodes, _, hactive, _, hversion, _, hpins, rfl⟩

/-- The fields of a workflow as a document. -/
theorem record?_toJson (snapshot : Snapshot) :
    ∃ field, snapshot.toJson.record? fieldNames = some field ∧
      field "id" = some (.string snapshot.id) ∧ field "name" = some (.string snapshot.name) ∧
      field "nodes" = some (.array (snapshot.nodes.map Node.toJson)) ∧
      field "active" = some (.bool snapshot.active) ∧
      field "activeVersionId" = snapshot.activeVersionId.map (ofOption .string) ∧
      field "pinData" = if snapshot.pinData.isEmpty then none
        else some (ofTable Value.json snapshot.pinData) := by
  have hpins : (if snapshot.pinData.isEmpty then []
      else [("pinData", ofTable Value.json snapshot.pinData)]) =
        omitNone "pinData" (fun pins ↦ pins) (if snapshot.pinData.isEmpty then none
          else some (ofTable Value.json snapshot.pinData)) := by
    split <;> rfl
  rw [toJson, hpins]
  refine ⟨_, record?_object_of_sublist (by decide) ?_, ?_⟩
  · rw [List.map_append, List.map_append]
    exact ((List.Sublist.refl _).append (omitNone_sublist _ _ _)).append (omitNone_sublist _ _ _)
  · simp [Table.lookup_cons_entry, lookup_omitNone, List.lookup_append]

/-- A workflow is read as it was written. -/
@[simp]
theorem ofJson?_toJson (snapshot : Snapshot) : ofJson? snapshot.toJson = some snapshot := by
  obtain ⟨field, hfield, hid, hname, hnodes, hactive, hversion, hpins⟩ := record?_toJson snapshot
  refine ofJson?_eq_some_iff.2 ⟨field, hfield, ?_, ?_, ?_, ?_, ?_, ?_⟩
  · rw [hid]; rfl
  · rw [hname]; rfl
  · rw [hnodes]
    exact mapM_map_eq_some fun node _ ↦ node.ofJson?_toJson
  · rw [hactive]; rfl
  · rw [hversion]
    rcases snapshot.activeVersionId with _ | _ | version <;> rfl
  · rw [hpins]
    split
    next hempty =>
      have hentries : snapshot.pinData = .empty :=
        Table.ext (List.isEmpty_iff.1 hempty)
      rw [hentries]
      rfl
    next => exact table?_ofTable fun entry _ ↦ toValue?_json entry.2

/-- A version is written as it was read: absent, null or a text. -/
theorem versionField?_eq_some {field : Option Json} {version : Option (Option String)}
    (h : versionField? field = some version) : version.map (ofOption .string) = field := by
  match field, h with
  | none, h | some .null, h | some (.string _), h =>
      cases h
      rfl

end Snapshot

end FlowGate
