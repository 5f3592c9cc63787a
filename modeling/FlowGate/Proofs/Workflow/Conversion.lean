import FlowGate.Proofs.Json.Kept
import FlowGate.Proofs.Workflow.Stored

/-!
# Workflows and their stored form

A workflow is stored as the document or the text of its snapshot. `conversion_round_trip` collects
what is kept. Nothing is lost between a workflow and a document: the two eras and a version that is
null stay apart. A text also keeps the era and the version, but the workflow as a whole only if it
keeps all numbers and few enough containers stand inside each other, since the reader rounds the
digits of a number before it applies the power of ten. In the other direction, a snapshot loses only
a flag that its version overrides.
-/

namespace FlowGate

open Json

/-! ## Records in texts -/

/-- A node is read from its text only if its document is kept. -/
theorem Node.keptIfRead : KeptIfRead Node.ofJson? Node.toJson := by
  intro depth node h
  obtain ⟨field, hfield, _, _, hversion, hparameters, _, _⟩ := ofJson?_eq_some_iff.1 h
  obtain ⟨written, hwritten, _, _, hversion', hparameters', _, _⟩ := node.record?_toJson
  obtain ⟨hdepth, hfields⟩ := field_of_record?_throughText hwritten hfield
  rw [hfields, hversion'] at hversion
  rw [hfields, hparameters'] at hparameters
  have hversion_kept := keptIfRead_real (depth + 1) node.typeVersion hversion
  have hparameters_kept := keptIfRead_value.table (depth + 1) node.parameters hparameters
  refine object_kept hdepth (List.forall_mem_append.2 ⟨?_, omitNone_kept _ fun _ ↦ rfl⟩)
  simp only [List.forall_mem_cons, hversion_kept, hparameters_kept]
  exact ⟨rfl, rfl, trivial, trivial, rfl, nofun⟩

namespace Snapshot

variable {depth : Nat} {snapshot read : Snapshot}

/-- A snapshot is read from its text only if its document is kept. -/
theorem keptIfRead : KeptIfRead Snapshot.ofJson? Snapshot.toJson := by
  intro depth snapshot h
  obtain ⟨field, hfield, _, _, hnodes, _, _, hpins⟩ := ofJson?_eq_some_iff.1 h
  obtain ⟨written, hwritten, _, _, hnodes', _, _, hpins'⟩ := snapshot.record?_toJson
  obtain ⟨hdepth, hfields⟩ := field_of_record?_throughText hwritten hfield
  rw [hfields, hnodes'] at hnodes
  rw [hfields, hpins'] at hpins
  have hnodes_kept := Node.keptIfRead.list (depth + 1) snapshot.nodes hnodes
  refine object_kept hdepth (List.forall_mem_append.2
    ⟨List.forall_mem_append.2 ⟨?_, omitNone_kept _ ?_⟩, ?_⟩)
  · simp only [List.forall_mem_cons, hnodes_kept]
    exact ⟨rfl, rfl, trivial, rfl, nofun⟩
  · intro version
    cases version <;> rfl
  · split
    next => exact nofun
    next hsome =>
      rw [if_neg hsome] at hpins
      have hpins_kept := keptIfRead_value.table (depth + 1) snapshot.pinData hpins
      simp only [List.forall_mem_cons, hpins_kept]
      exact ⟨trivial, nofun⟩

theorem versionField?_throughText (depth : Nat) (version : Option (Option String)) :
    versionField? ((version.map (ofOption .string)).map (throughText depth)) = some version := by
  rcases version with _ | _ | version <;> rfl

/-- What is read from the text of a snapshot differs from it at most in its nodes and pins. -/
theorem frame_of_throughText (h : ofJson? (throughText depth snapshot.toJson) = some read) :
    read.id = snapshot.id ∧ read.name = snapshot.name ∧ read.active = snapshot.active ∧
      read.activeVersionId = snapshot.activeVersionId := by
  obtain ⟨field, hfield, hid, hname, _, hactive, hversion, _⟩ := ofJson?_eq_some_iff.1 h
  obtain ⟨written, hwritten, hid', hname', _, hactive', hversion', _⟩ := snapshot.record?_toJson
  obtain ⟨_, hfields⟩ := field_of_record?_throughText hwritten hfield
  rw [hfields, hid'] at hid
  rw [hfields, hname'] at hname
  rw [hfields, hactive'] at hactive
  rw [hfields, hversion', versionField?_throughText] at hversion
  exact ⟨(Option.some.inj hid).symm, (Option.some.inj hname).symm, (Option.some.inj hactive).symm,
    (Option.some.inj hversion).symm⟩

end Snapshot

/-! ## Conversions -/

/-- The version field of a stored workflow. -/
def Activation.versionField : Activation → Option Json
  | .legacy _ => none
  | .versioned none => some .null
  | .versioned (some version) => some (.string version)

/-- A snapshot that was made a workflow and a snapshot again. -/
def Snapshot.converted (snapshot : Snapshot) : Snapshot := (Workflow.ofSnapshot snapshot).toSnapshot

namespace Workflow

/-- A workflow as the document of its snapshot. -/
def toJson (workflow : Workflow) : Json := workflow.toSnapshot.toJson

/-- Reads a workflow from the document of a snapshot. -/
def ofJson? (json : Json) : Option Workflow := (Snapshot.ofJson? json).map ofSnapshot

/-- A workflow as the text of its snapshot. -/
def toText (workflow : Workflow) : String := compact workflow.toJson

/-- Reads a workflow from the text of a snapshot. -/
def ofText? (text : String) : Option Workflow := (read? text).bind ofJson?

variable {workflow read : Workflow}

@[simp]
theorem ofSnapshot_toSnapshot (workflow : Workflow) :
    ofSnapshot workflow.toSnapshot = workflow := by
  obtain ⟨id, name, nodes, pins, activation⟩ := workflow
  cases activation <;> rfl

/-- A workflow is read from its document. -/
theorem ofJson?_toJson (workflow : Workflow) : ofJson? workflow.toJson = some workflow := by
  rw [ofJson?, toJson, Snapshot.ofJson?_toJson, Option.map_some, ofSnapshot_toSnapshot]

/-- The fields of a document that say whether its workflow is active. -/
theorem activation_toJson (workflow : Workflow) :
    workflow.toJson.field? Snapshot.fieldNames "activeVersionId" =
        workflow.activation.versionField ∧
      workflow.toJson.field? Snapshot.fieldNames "active" = some (.bool workflow.isActive) := by
  obtain ⟨field, hfield, _, _, _, hactive, hversion, _⟩ := workflow.toSnapshot.record?_toJson
  rw [toJson, field?_of_record? hfield, field?_of_record? hfield, hactive, hversion]
  obtain ⟨id, name, nodes, pins, activation⟩ := workflow
  rcases activation with ⟨_ | version⟩ | active <;> exact ⟨rfl, rfl⟩

theorem exists_snapshot_of_ofText? (h : ofText? workflow.toText = some read) :
    ∃ snapshot, Snapshot.ofJson? (throughText 0 workflow.toSnapshot.toJson) = some snapshot ∧
      ofSnapshot snapshot = read := by
  rw [ofText?, toText, read?_compact] at h
  exact Option.map_eq_some_iff.1 h

/-- What is read from the text of a workflow is of the same era and has the same version. -/
theorem activation_of_ofText? (h : ofText? workflow.toText = some read) :
    read.activation = workflow.activation := by
  obtain ⟨snapshot, hsnapshot, rfl⟩ := exists_snapshot_of_ofText? h
  obtain ⟨_, _, hactive, hversion⟩ := Snapshot.frame_of_throughText hsnapshot
  have hactivation :
      (ofSnapshot snapshot).activation = (ofSnapshot workflow.toSnapshot).activation := by
    rw [ofSnapshot, ofSnapshot, hactive, hversion]
  rw [hactivation, ofSnapshot_toSnapshot]

/-- A workflow is read from its text exactly if its document is kept. -/
theorem ofText?_toText_iff (workflow : Workflow) :
    ofText? workflow.toText = some workflow ↔
      IsKept 0 workflow.toJson.parts workflow.toJson.nesting := by
  rw [← throughText_eq_self_iff workflow.toJson (Nat.zero_le _)]
  constructor
  · intro h
    obtain ⟨snapshot, hsnapshot, rfl⟩ := exists_snapshot_of_ofText? h
    obtain ⟨_, _, hactive, hversion⟩ := Snapshot.frame_of_throughText hsnapshot
    have hsame : snapshot = (ofSnapshot snapshot).toSnapshot :=
      Snapshot.ext rfl rfl rfl hactive hversion rfl
    rw [← hsame] at hsnapshot
    rw [toJson, ← hsame]
    exact Snapshot.keptIfRead 0 snapshot hsnapshot
  · intro h
    rw [ofText?, toText, read?_compact, h, Option.bind_some, ofJson?_toJson]

end Workflow

/-- A snapshot that was converted has the flag that its version asks for. -/
theorem Snapshot.converted_eq (snapshot : Snapshot) :
    snapshot.converted = { snapshot with active := (Workflow.ofSnapshot snapshot).isActive } := by
  obtain ⟨id, name, nodes, active, version, pins⟩ := snapshot
  cases version <;> rfl

theorem Snapshot.converted_of_legacy {snapshot : Snapshot} (h : snapshot.activeVersionId = none) :
    snapshot.converted = snapshot := by
  obtain ⟨id, name, nodes, active, version, pins⟩ := snapshot
  cases h
  rfl

theorem Snapshot.converted_converted (snapshot : Snapshot) :
    snapshot.converted.converted = snapshot.converted := by
  rw [converted, converted, Workflow.ofSnapshot_toSnapshot]

namespace Workflow

/-- A workflow is the one that is read from its document; the version and the flag in the document
say what its activation says. It is the one that is read from its text exactly if every part of the
document is legible, as integers of 64 bits are, and at most 127 containers stand inside each other;
in any case the text keeps the activation. A snapshot that is converted to a workflow and back
differs from itself at most in the flag, and only if it has a version field. -/
theorem conversion_round_trip :
    (∀ workflow : Workflow,
      ofJson? workflow.toJson = some workflow ∧
      workflow.toJson.field? Snapshot.fieldNames "activeVersionId" =
        workflow.activation.versionField ∧
      workflow.toJson.field? Snapshot.fieldNames "active" = some (.bool workflow.isActive) ∧
      (ofText? workflow.toText = some workflow ↔
        (∀ part ∈ workflow.toJson.parts, part.IsLegible) ∧
          workflow.toJson.nesting ≤ greatestDepth) ∧
      ∀ read, ofText? workflow.toText = some read → read.activation = workflow.activation) ∧
    (∀ value : Int, Int64.minValue.toInt ≤ value → value < UInt64.size →
      (Json.number (.integer value)).IsLegible) ∧
    ∀ snapshot : Snapshot,
      snapshot.converted = { snapshot with active := (ofSnapshot snapshot).isActive } ∧
      (snapshot.activeVersionId = none → snapshot.converted = snapshot) ∧
      snapshot.converted.converted = snapshot.converted := by
  refine ⟨fun workflow ↦ ?_, fun _ ↦ Number.reread?_integer, fun snapshot ↦ ?_⟩
  · have htext := workflow.ofText?_toText_iff
    rw [IsKept, Nat.zero_add] at htext
    exact ⟨workflow.ofJson?_toJson, workflow.activation_toJson.1, workflow.activation_toJson.2,
      htext, fun _ ↦ activation_of_ofText?⟩
  · exact ⟨snapshot.converted_eq, Snapshot.converted_of_legacy, snapshot.converted_converted⟩

/-- A workflow without a published version and with a parameter. -/
def draft : Workflow where
  id := "w"
  name := "orders"
  nodes := [⟨"Read", "kafkaTrigger", .one, .ofList [("offset", .number (.integer 7))], false, none⟩]
  pinData := .ofList [("Read", .null)]
  activation := .versioned none

theorem draft_round_trip :
    ofText? draft.toText = some draft ∧
      (∀ read, ofText? draft.toText = some read → read.activation = .versioned none) ∧
      (ofSnapshot ⟨"w", "", [], true, none, .empty⟩).toSnapshot =
        ⟨"w", "", [], true, none, .empty⟩ :=
  ⟨(conversion_round_trip.1 draft).2.2.2.1.2 ⟨by decide +kernel, by decide +kernel⟩,
    (conversion_round_trip.1 draft).2.2.2.2,
    (conversion_round_trip.2.2 ⟨"w", "", [], true, none, .empty⟩).2.1 rfl⟩

/-- A workflow with a node whose version is next to 9.6. -/
def closeVersion : Workflow where
  id := "w"
  name := ""
  nodes := [⟨"n", "t", ⟨false, 4621593937607602996, by decide⟩, .empty, false, none⟩]
  pinData := .empty
  activation := .versioned none

/-- The version is written as 9.600000000000001, which is read as 9.6. -/
theorem closeVersion_not_read_back : ofText? closeVersion.toText ≠ some closeVersion := by
  have hversion : ¬ ∀ part ∈ closeVersion.toJson.parts, part.IsLegible := by decide +kernel
  exact fun h ↦ hversion (closeVersion.ofText?_toText_iff.1 h).1

end Workflow

end FlowGate
