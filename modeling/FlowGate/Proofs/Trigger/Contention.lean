import FlowGate.Proofs.Store.Keyed
import FlowGate.Trigger.Validation

/-!
# Contention for exclusive keys

`Workflow.Claims` says a workflow claims a key, and `Workflow.Contends` that two workflows claim
the same one. `ensureNoConflict_find_eq_ok_iff` says the search for a conflict among the workflows
of a store succeeds exactly when the workflow contends with none of the active ones it asked for.
-/

namespace FlowGate

/-- `workflow.Claims registry nodeType key` says an enabled node of the type, without pinned
output, has the key. -/
def Workflow.Claims (registry : ExclusivityRegistry) (workflow : Workflow) (nodeType : String)
    (key : ExclusiveKey) : Prop :=
  ∃ node ∈ workflow.nodes, node.isLive workflow.pinData = true ∧ node.type = nodeType ∧
    registry.extractKey? node = some key

/-- `left.Contends registry right` says both workflows claim one key for nodes of one type. -/
def Workflow.Contends (registry : ExclusivityRegistry) (left right : Workflow) : Prop :=
  ∃ nodeType key, left.Claims registry nodeType key ∧ right.Claims registry nodeType key

theorem Workflow.Contends.symm {registry : ExclusivityRegistry} {left right : Workflow}
    (h : left.Contends registry right) : right.Contends registry left := by
  obtain ⟨nodeType, key, hleft, hright⟩ := h
  exact ⟨nodeType, key, hright, hleft⟩

namespace ExclusivityRegistry

variable {registry : ExclusivityRegistry} {node : Node} {key : ExclusiveKey} {nodeType : String}
  {workflow : Workflow} {nodes : List Node} {others : List WorkflowSummary}

/-- Only nodes of registered types have a key. -/
theorem isChecked_of_extractKey? (h : registry.extractKey? node = some key) :
    registry.isChecked node.type = true := by
  obtain ⟨paths, hpaths, _⟩ := Option.bind_eq_some_iff.1 h
  simp [isChecked, Table.contains, hpaths]

/-- A workflow claims the keys of its claimants. -/
theorem claims_iff_claimants :
    workflow.Claims registry nodeType key ↔
      ∃ node ∈ registry.claimants workflow none, node.type = nodeType ∧
        registry.extractKey? node = some key := by
  constructor
  · intro hexists
    obtain ⟨node, hmem, hlive, htype, hkey⟩ := hexists
    refine ⟨node, List.mem_filter.2 ⟨hmem, ?_⟩, htype, hkey⟩
    simp [isChecked_of_extractKey? hkey, hlive]
  · intro hexists
    obtain ⟨node, hmem, htype, hkey⟩ := hexists
    obtain ⟨hnode, hclaimant⟩ := List.mem_filter.1 hmem
    simp only [Option.all_none, Bool.and_true, Bool.and_eq_true] at hclaimant
    exact ⟨node, hnode, hclaimant.2, htype, hkey⟩

/-- The published version of an active workflow holds the keys that the workflow claims. -/
theorem isHeldBy_iff {version : WorkflowVersion} (h : workflow.activeVersion? = some version) :
    registry.isHeldBy nodeType key version = true ↔ workflow.Claims registry nodeType key := by
  rw [Workflow.activeVersion?] at h
  split at h
  · cases h
    simp only [isHeldBy, List.any_eq_true, Bool.and_eq_true, decide_eq_true_eq, Workflow.Claims]
    constructor
    · intro hexists
      obtain ⟨node, hmem, ⟨htype, hlive⟩, hkey⟩ := hexists
      exact ⟨node, hmem, hlive, htype, hkey⟩
    · intro hexists
      obtain ⟨node, hmem, hlive, htype, hkey⟩ := hexists
      exact ⟨node, hmem, ⟨htype, hlive⟩, hkey⟩
  · cases h

/-- Nobody holds a key exactly when no published version does. -/
theorem holder?_eq_none_iff :
    registry.holder? nodeType key others = none ↔
      ∀ summary ∈ others, ∀ version, summary.activeVersion = some version →
        registry.isHeldBy nodeType key version = false := by
  rw [holder?, List.find?_eq_none]
  refine forall₂_congr fun summary _ ↦ ?_
  cases summary.activeVersion <;> simp

/-- A node has no conflict exactly when nobody holds its key. -/
theorem conflictOf?_eq_none_iff :
    registry.conflictOf? others node = none ↔
      ∀ key, registry.extractKey? node = some key →
        registry.holder? node.type key others = none := by
  unfold conflictOf?
  cases registry.extractKey? node with
  | none => simp
  | some key => cases hholder : registry.holder? node.type key others <;> simp [hholder]

/-- The search for a conflict succeeds exactly when no node has one. -/
theorem ensureNoConflict_eq_ok_iff :
    registry.ensureNoConflict nodes others = .ok () ↔
      ∀ node ∈ nodes, registry.conflictOf? others node = none := by
  unfold ensureNoConflict
  rw [← List.findSome?_eq_none_iff]
  cases nodes.findSome? (registry.conflictOf? others) <;> simp

/-- A summary shows a holder of a key exactly when its workflow is active and claims the key. -/
theorem summary_holds_iff :
    (∃ version, workflow.summary.activeVersion = some version ∧
      registry.isHeldBy nodeType key version = true) ↔
        workflow.isActive = true ∧ workflow.Claims registry nodeType key := by
  show (∃ version, workflow.activeVersion? = some version ∧ _) ↔ _
  constructor
  · intro hexists
    obtain ⟨version, hversion, hheld⟩ := hexists
    refine ⟨?_, (isHeldBy_iff hversion).1 hheld⟩
    rw [Workflow.activeVersion?] at hversion
    split at hversion
    · assumption
    · cases hversion
  · intro hboth
    obtain ⟨hactive, hclaims⟩ := hboth
    have hversion : workflow.activeVersion? =
        some ⟨workflow.activation.versionId?.getD "", workflow.nodes, workflow.pinData⟩ :=
      if_pos hactive
    exact ⟨_, hversion, (isHeldBy_iff hversion).2 hclaims⟩

/-- A workflow passes the search for a conflict among the workflows that a store lists exactly when
it contends with none of the active ones. -/
theorem ensureNoConflict_find_eq_ok_iff {store : WorkflowStore} {filter : WorkflowFilter} :
    registry.ensureNoConflict (registry.claimants workflow none) (store.find filter) = .ok () ↔
      ∀ id other, store.get? id = some other → filter.accepts id other.isActive = true →
        other.isActive = true → ¬ workflow.Contends registry other := by
  rw [ensureNoConflict_eq_ok_iff]
  constructor
  · -- the node that claims the key would have found the other workflow as its holder
    intro hnone id other hstored haccepts hactive hexists
    obtain ⟨nodeType, key, hleft, hright⟩ := hexists
    obtain ⟨node, hnode, rfl, hkey⟩ := claims_iff_claimants.1 hleft
    obtain ⟨version, hversion, hheld⟩ := summary_holds_iff.2 ⟨hactive, hright⟩
    have hfree := holder?_eq_none_iff.1 (conflictOf?_eq_none_iff.1 (hnone node hnode) key hkey)
      other.summary (WorkflowStore.mem_find_iff.2 ⟨id, other, hstored, haccepts, rfl⟩) version
      hversion
    rw [hheld] at hfree
    cases hfree
  · intro hfree node hnode
    refine conflictOf?_eq_none_iff.2 fun key hkey ↦ holder?_eq_none_iff.2 ?_
    intro summary hmem version hversion
    obtain ⟨id, other, hstored, haccepts, rfl⟩ := WorkflowStore.mem_find_iff.1 hmem
    refine Bool.eq_false_iff.2 fun hheld ↦ ?_
    obtain ⟨hactive, hclaims⟩ := summary_holds_iff.1 ⟨version, hversion, hheld⟩
    have hown := claims_iff_claimants.2 ⟨node, hnode, rfl, hkey⟩
    exact hfree id other hstored haccepts hactive ⟨node.type, key, hown, hclaims⟩

end ExclusivityRegistry

end FlowGate
