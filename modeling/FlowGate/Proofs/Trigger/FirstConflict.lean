import FlowGate.Proofs.Trigger.Contention

/-!
# The first conflict

The search for a conflict among the workflows that a store found, described without the search:
`Node.MayClaim` says a node is compared at all, `WorkflowSummary.Holds` that a workflow holds a key,
and `Workflow.FirstConflict` which conflict is the first one. `ensureNoConflict_eq_error_iff` says
this is the one that is reported, and `findSome?_claimants_eq_none_iff` when there is none.
-/

namespace FlowGate

/-- `node.Works pinData` says the node is enabled and its output is not pinned; null is no pin. -/
def Node.Works (node : Node) (pinData : Table Value) : Prop :=
  node.disabled = false ∧ ∀ value, pinData.get? node.name = some value → value = .null

/-- `node.MayClaim registry pinData` says the node works and is of a registered type. -/
def Node.MayClaim (registry : ExclusivityRegistry) (pinData : Table Value) (node : Node) : Prop :=
  (∃ extractor, registry.get? node.type = some extractor) ∧ node.Works pinData

/-- `summary.Holds registry nodeType key` says a working node of the published version has the type
and the key. -/
def WorkflowSummary.Holds (registry : ExclusivityRegistry) (nodeType : String) (key : ExclusiveKey)
    (summary : WorkflowSummary) : Prop :=
  ∃ version, summary.activeVersion = some version ∧ ∃ node ∈ version.nodes,
    node.type = nodeType ∧ node.Works version.pinData ∧ registry.extractKey? node = some key

/-- `node.Contested registry pinData others` says one of the other workflows holds the key that the
node would claim. -/
def Node.Contested (registry : ExclusivityRegistry) (pinData : Table Value)
    (others : List WorkflowSummary) (node : Node) : Prop :=
  node.MayClaim registry pinData ∧ ∃ key, registry.extractKey? node = some key ∧
    ∃ summary ∈ others, summary.Holds registry node.type key

/-- `workflow.FirstConflict registry others conflict` says the conflict is that of the first
contested node of the workflow with the first of the other workflows that holds its key. -/
def Workflow.FirstConflict (registry : ExclusivityRegistry) (workflow : Workflow)
    (others : List WorkflowSummary) (conflict : TriggerConflict) : Prop :=
  ∃ before node after, workflow.nodes = before ++ node :: after ∧
    (∀ earlier ∈ before, ¬ earlier.Contested registry workflow.pinData others) ∧
    node.MayClaim registry workflow.pinData ∧ ∃ key, registry.extractKey? node = some key ∧
      ∃ sooner holder later, others = sooner ++ holder :: later ∧
        (∀ summary ∈ sooner, ¬ summary.Holds registry node.type key) ∧
        holder.Holds registry node.type key ∧
        conflict = ⟨node.name, node.type, key.text, holder.id, holder.name⟩

/-- A value is null exactly if its document is. -/
theorem Value.isNull_iff {value : Value} : value.isNull = true ↔ value = .null := by
  rw [Value.ext_iff, isNull]
  show _ ↔ value.json = .null
  cases value.json <;> simp [Json.isNull]

/-- The nodes that are live are those that work. -/
theorem Node.isLive_iff {node : Node} {pinData : Table Value} :
    node.isLive pinData = true ↔ node.Works pinData := by
  unfold isLive Works hasPinnedData
  cases pinData.get? node.name with
  | none => simp
  | some value => simp [Value.isNull_iff]

namespace ExclusivityRegistry

variable {registry : ExclusivityRegistry} {node : Node} {pinData : Table Value}
  {workflow : Workflow} {others : List WorkflowSummary} {summary : WorkflowSummary}
  {nodeType : String} {key : ExclusiveKey} {conflict : TriggerConflict} {error : TriggerError}

/-- Only the nodes that may claim a key are compared with others. -/
theorem mayClaim_iff :
    (registry.isChecked node.type && node.isLive pinData) = true ↔
      node.MayClaim registry pinData := by
  rw [Bool.and_eq_true, Node.isLive_iff, isChecked, Table.contains, Option.isSome_iff_exists]
  rfl

theorem mem_claimants_iff :
    node ∈ registry.claimants workflow none ↔
      node ∈ workflow.nodes ∧ node.MayClaim registry workflow.pinData := by
  simp only [claimants, List.mem_filter, Option.all_none, Bool.and_true, mayClaim_iff]

/-- There is nothing to compare exactly when no node may claim a key. -/
theorem isEmpty_claimants_iff :
    (registry.claimants workflow none).isEmpty = true ↔
      ∀ node ∈ workflow.nodes, ¬ node.MayClaim registry workflow.pinData := by
  rw [List.isEmpty_iff, List.eq_nil_iff_forall_not_mem]
  simp only [mem_claimants_iff, not_and]

theorem any_isHeldBy_iff :
    summary.activeVersion.any (registry.isHeldBy nodeType key) = true ↔
      summary.Holds registry nodeType key := by
  unfold WorkflowSummary.Holds
  cases summary.activeVersion with
  | none => simp
  | some version => simp [isHeldBy, Node.isLive_iff, and_assoc]

/-- A node is in conflict with the first workflow that holds its key. -/
theorem conflictOf?_eq_some_iff :
    registry.conflictOf? others node = some conflict ↔ ∃ key, registry.extractKey? node = some key ∧
      ∃ sooner holder later, others = sooner ++ holder :: later ∧
        (∀ summary ∈ sooner, ¬ summary.Holds registry node.type key) ∧
        holder.Holds registry node.type key ∧
        conflict = ⟨node.name, node.type, key.text, holder.id, holder.name⟩ := by
  simp only [conflictOf?, Option.bind_eq_bind, Option.bind_eq_some_iff, Option.pure_def,
    Option.some.injEq, holder?, List.find?_eq_some_iff_append, any_isHeldBy_iff,
    Bool.not_eq_eq_eq_not, Bool.not_true, Bool.eq_false_iff, ne_eq]
  constructor
  · intro hexists
    obtain ⟨key, hkey, holder, ⟨hholds, sooner, later, hothers, hsooner⟩, rfl⟩ := hexists
    exact ⟨key, hkey, sooner, holder, later, hothers, hsooner, hholds, rfl⟩
  · intro hexists
    obtain ⟨key, hkey, sooner, holder, later, hothers, hsooner, hholds, rfl⟩ := hexists
    exact ⟨key, hkey, holder, ⟨hholds, sooner, later, hothers, hsooner⟩, rfl⟩

/-- A node is contested exactly when it may claim a key and is in conflict. -/
theorem contested_iff :
    node.Contested registry pinData others ↔
      node.MayClaim registry pinData ∧ registry.conflictOf? others node ≠ none := by
  refine and_congr_right fun _ ↦ ?_
  rw [ne_eq, conflictOf?_eq_none_iff]
  simp only [holder?, List.find?_eq_none, any_isHeldBy_iff, Classical.not_forall,
    Classical.not_not, exists_prop]

/-- What is found among the claimants is found among all nodes when the others are passed over. -/
theorem findSome?_claimants :
    (registry.claimants workflow none).findSome? (registry.conflictOf? others) =
      workflow.nodes.findSome? fun node ↦
        if (registry.isChecked node.type && node.isLive workflow.pinData) = true then
          registry.conflictOf? others node
        else none := by
  simp only [claimants, Option.all_none, Bool.and_true]
  induction workflow.nodes with
  | nil => rfl
  | cons node rest ih =>
      rw [List.filter_cons, List.findSome?_cons]
      split
      · rw [List.findSome?_cons, ih]
      · exact ih

/-- The search among the claimants of a workflow finds its first conflict. -/
theorem findSome?_claimants_eq_some_iff :
    (registry.claimants workflow none).findSome? (registry.conflictOf? others) = some conflict ↔
      workflow.FirstConflict registry others conflict := by
  rw [findSome?_claimants, List.findSome?_eq_some_iff]
  unfold Workflow.FirstConflict
  refine exists_congr fun before ↦ exists_congr fun node ↦ exists_congr fun after ↦
    and_congr_right fun _ ↦ ?_
  rw [and_comm]
  refine and_congr (forall₂_congr fun earlier _ ↦ ?_) ?_
  · rw [contested_iff, not_and, Classical.not_not, ← mayClaim_iff]
    split <;> simp_all
  · rw [← conflictOf?_eq_some_iff, ← mayClaim_iff]
    split <;> simp_all

/-- It finds none exactly when no node of the workflow is contested. -/
theorem findSome?_claimants_eq_none_iff :
    (registry.claimants workflow none).findSome? (registry.conflictOf? others) = none ↔
      ∀ node ∈ workflow.nodes, ¬ node.Contested registry workflow.pinData others := by
  rw [List.findSome?_eq_none_iff]
  simp only [mem_claimants_iff, contested_iff, not_and, ne_eq, Classical.not_not, and_imp]

/-- A workflow is not refused exactly when no node of it is contested. -/
theorem ensureNoConflict_claimants_eq_ok_iff :
    registry.ensureNoConflict (registry.claimants workflow none) others = .ok () ↔
      ∀ node ∈ workflow.nodes, ¬ node.Contested registry workflow.pinData others := by
  rw [ensureNoConflict_eq_ok_iff, ← List.findSome?_eq_none_iff, findSome?_claimants_eq_none_iff]

/-- It is refused exactly for its first conflict. -/
theorem ensureNoConflict_eq_error_iff :
    registry.ensureNoConflict (registry.claimants workflow none) others = .error error ↔
      ∃ conflict, error = .parameterConflict conflict ∧
        workflow.FirstConflict registry others conflict := by
  simp only [← findSome?_claimants_eq_some_iff]
  unfold ensureNoConflict
  cases (registry.claimants workflow none).findSome? (registry.conflictOf? others) with
  | none => simp
  | some conflict => simp [eq_comm]

end ExclusivityRegistry

end FlowGate
