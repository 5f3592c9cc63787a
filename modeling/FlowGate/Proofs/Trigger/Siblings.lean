import FlowGate.Proofs.Trigger.Narrowing
import FlowGate.Proofs.Trigger.Symmetry

/-!
# Nodes of one workflow with one key

The check before an activation keeps workflows apart, and not the nodes of one workflow.
`activation_keeps_workflows_apart` says which workflows it accepts: those that share no key with the
other live workflows. It also says that a node makes no difference if it has the type and the key of
a working node of its own workflow. `siblings_may_share_key` is a workflow that is accepted with two
such nodes.
-/

namespace FlowGate

open ExclusivityRegistry

/-- `node.SharesKey registry other` says the two nodes are of one type and have one key. -/
def Node.SharesKey (registry : ExclusivityRegistry) (node other : Node) : Prop :=
  node.type = other.type ∧ ∃ key, registry.extractKey? node = some key ∧
    registry.extractKey? other = some key

/-- `workflow.ApartFrom registry others` says no working node of the workflow shares its key with a
working node of the published version of one of the others. -/
def Workflow.ApartFrom (registry : ExclusivityRegistry) (workflow : Workflow)
    (others : List WorkflowSummary) : Prop :=
  ∀ summary ∈ others, ∀ version, summary.activeVersion = some version →
    ∀ node ∈ workflow.nodes, node.Works workflow.pinData →
      ∀ other ∈ version.nodes, other.Works version.pinData → ¬ node.SharesKey registry other

/-- `workflow.Repeats registry node` says the node shares its key with a working node of the
workflow. -/
def Workflow.Repeats (registry : ExclusivityRegistry) (workflow : Workflow) (node : Node) : Prop :=
  ∃ own ∈ workflow.nodes, own.Works workflow.pinData ∧ own.SharesKey registry node

/-- The workflow with more nodes behind its own. -/
def Workflow.addNodes (workflow : Workflow) (nodes : List Node) : Workflow :=
  { workflow with nodes := workflow.nodes ++ nodes }

variable {registry : ExclusivityRegistry} {workflow : Workflow} {node other : Node}
  {others : List WorkflowSummary} {copies : List Node}

/-- A workflow is apart from others exactly if none of its nodes is contested by them. -/
theorem Workflow.apartFrom_iff :
    workflow.ApartFrom registry others ↔
      ∀ node ∈ workflow.nodes, ¬ node.Contested registry workflow.pinData others := by
  constructor
  · intro hapart node hnode hcontested
    obtain ⟨hclaim, key, hkey, summary, hsummary, version, hversion, other, hother, htype, hworks,
      hotherKey⟩ := hcontested
    exact hapart summary hsummary version hversion node hnode hclaim.2 other hother hworks
      ⟨htype.symm, key, hkey, hotherKey⟩
  · intro hfree summary hsummary version hversion node hnode hlive other hother hworks hshares
    obtain ⟨htype, key, hkey, hotherKey⟩ := hshares
    have hclaim := Node.mayClaim_of_extractKey? (Node.isLive_iff.2 hlive) hkey
    exact hfree node hnode ⟨hclaim, key, hkey, summary, hsummary, version, hversion, other, hother,
      htype.symm, hworks, hotherKey⟩

namespace ExclusivityRegistry

/-- Nodes that share a key are free of conflicts together. -/
theorem conflictOf?_eq_none_of_sharesKey (hshares : node.SharesKey registry other)
    (hnone : registry.conflictOf? others node = none) :
    registry.conflictOf? others other = none := by
  obtain ⟨htype, key, hkey, hotherKey⟩ := hshares
  rw [conflictOf?_eq_none_iff] at hnone ⊢
  intro found hfound
  cases hotherKey.symm.trans hfound
  rw [← htype]
  exact hnone key hkey

/-- The claimants among more nodes stand behind those of the workflow. -/
theorem claimants_addNodes (registry : ExclusivityRegistry) (workflow : Workflow)
    (nodes : List Node) :
    registry.claimants (workflow.addNodes nodes) none =
      registry.claimants workflow none ++
        registry.claimants { workflow with nodes := nodes } none :=
  List.filter_append _ _

/-- Nodes that repeat keys of a workflow leave open whether it has a claimant. -/
theorem isEmpty_claimants_addNodes (hcopies : ∀ copy ∈ copies, workflow.Repeats registry copy) :
    (registry.claimants (workflow.addNodes copies) none).isEmpty =
      (registry.claimants workflow none).isEmpty := by
  rw [Bool.eq_iff_iff, isEmpty_claimants_iff, isEmpty_claimants_iff]
  show (∀ node ∈ workflow.nodes ++ copies, ¬ node.MayClaim registry workflow.pinData) ↔ _
  rw [List.forall_mem_append, and_iff_left_iff_imp]
  intro hnone copy hcopy
  -- the node that is repeated would be a claimant itself
  obtain ⟨own, hown, hworks, _, _, hkey, _⟩ := hcopies copy hcopy
  exact absurd (Node.mayClaim_of_extractKey? (Node.isLive_iff.2 hworks) hkey) (hnone own hown)

/-- Nodes that repeat keys of a workflow are in conflict only when the workflow is. -/
theorem ensureNoConflict_addNodes (hcopies : ∀ copy ∈ copies, workflow.Repeats registry copy)
    (others : List WorkflowSummary) :
    registry.ensureNoConflict (registry.claimants (workflow.addNodes copies) none) others =
      registry.ensureNoConflict (registry.claimants workflow none) others := by
  unfold ensureNoConflict
  rw [claimants_addNodes, List.findSome?_append]
  cases hown : (registry.claimants workflow none).findSome? (registry.conflictOf? others) with
  | some conflict => rfl
  | none =>
      rw [List.findSome?_eq_none_iff] at hown
      have hcopy : (registry.claimants { workflow with nodes := copies } none).findSome?
          (registry.conflictOf? others) = none := by
        rw [List.findSome?_eq_none_iff]
        intro copy hmem
        obtain ⟨own, hmemOwn, hworks, hshares⟩ := hcopies copy (mem_claimants_iff.1 hmem).1
        have ⟨_, _, hkey, _⟩ := hshares
        have hclaim := Node.mayClaim_of_extractKey? (Node.isLive_iff.2 hworks) hkey
        exact conflictOf?_eq_none_of_sharesKey hshares
          (hown own (mem_claimants_iff.2 ⟨hmemOwn, hclaim⟩))
      rw [hcopy]
      rfl

end ExclusivityRegistry

namespace StoreAnswers

variable {answers : StoreAnswers}

/-- The check before an activation passes exactly if there is nothing to compare, if no other
workflow is live, or if the workflow is apart from the other live ones. -/
theorem activation_eq_ok_iff :
    (answers.activation registry workflow).1 = .ok () ↔
      (∀ node ∈ workflow.nodes, ¬ node.MayClaim registry workflow.pinData) ∨
        ∃ ids, answers.listed = .ok ids ∧ ((∀ id ∈ ids, id = workflow.id) ∨
          ∃ others, answers.found (workflow.othersAmong ids) = .ok others ∧
            workflow.ApartFrom registry others) := by
  have hclaims (hsome : ∃ node ∈ workflow.nodes, node.MayClaim registry workflow.pinData) :
      ¬ ∀ node ∈ workflow.nodes, ¬ node.MayClaim registry workflow.pinData :=
    fun hnone ↦ hsome.elim fun node hnode ↦ hnone node hnode.1 hnode.2
  have houtcome := answers.activation_outcome registry workflow
  generalize answers.activation registry workflow = outcome at houtcome ⊢
  cases houtcome with
  | idle hnone => exact iff_of_true rfl (.inl hnone)
  | unlisted error hsome hlisted => simp [hclaims hsome, hlisted]
  | alone ids hsome hlisted hids => exact iff_of_true rfl (.inr ⟨ids, hlisted, .inl hids⟩)
  | unanswered ids error hsome hlisted hids hfound =>
      have hothers : ¬ ∀ id ∈ ids, id = workflow.id := by simpa using hids
      simp [hclaims hsome, hlisted, hothers, hfound]
  | compared ids others hsome hlisted hids hfound =>
      have hothers : ¬ ∀ id ∈ ids, id = workflow.id := by simpa using hids
      simp [hclaims hsome, hlisted, hothers, hfound, ensureNoConflict_claimants_eq_ok_iff,
        Workflow.apartFrom_iff]

/-- Nodes that repeat keys of a workflow change neither the result of the check before its
activation nor the searches that are made for it. -/
theorem activation_addNodes (hcopies : ∀ copy ∈ copies, workflow.Repeats registry copy) :
    answers.activation registry (workflow.addNodes copies) =
      answers.activation registry workflow := by
  have hregistry : (answers.check registry).registry = registry := rfl
  have hlist : (answers.check registry).listActive = pure answers.listed := rfl
  have hid : (workflow.addNodes copies).id = workflow.id := rfl
  unfold activation TriggerValidation.validateActivation
  simp only [hregistry, hlist, hid, pure_bind, isEmpty_claimants_addNodes hcopies]
  split
  · rfl
  cases answers.listed with
  | error error => rfl
  | ok ids =>
      simp only
      split
      · rfl
      · simp only [run_compareWith, ensureNoConflict_addNodes hcopies]

/-- A workflow is accepted exactly if there is nothing to compare, if no other workflow is live, or
if it shares no key with the other live ones that are found. Further nodes that repeat its own keys
make no difference. -/
theorem activation_keeps_workflows_apart (answers : StoreAnswers) (registry : ExclusivityRegistry)
    (workflow : Workflow) :
    ((answers.activation registry workflow).1 = .ok () ↔
        (∀ node ∈ workflow.nodes, ¬ node.MayClaim registry workflow.pinData) ∨
          ∃ ids, answers.listed = .ok ids ∧ ((∀ id ∈ ids, id = workflow.id) ∨
            ∃ others, answers.found (workflow.othersAmong ids) = .ok others ∧
              workflow.ApartFrom registry others)) ∧
      ∀ copies, (∀ copy ∈ copies, workflow.Repeats registry copy) →
        answers.activation registry (workflow.addNodes copies) =
          answers.activation registry workflow :=
  ⟨activation_eq_ok_iff, fun _ ↦ activation_addNodes⟩

/-- A workflow with two nodes for one topic is refused for what it is refused for with one of
them. -/
theorem listeners_repeated :
    let workflow := listeners "1" [("Listen", "orders")] (.versioned none)
    let copies := (listeners "1" [("Listen again", "orders")] (.versioned none)).nodes
    let answers := ofStore (WorkflowStore.put .empty
      (listeners "2" [("Consume", "orders")] (.legacy true))) ["2"]
    (∀ copy ∈ copies, workflow.Repeats defaults copy) ∧
      (answers.activation defaults (workflow.addNodes copies)).1 = .error (.parameterConflict
        ⟨"Listen", kafkaTrigger, "groupId=billing, topic=orders", "2", "Listeners"⟩) := by
  intro workflow copies answers
  have hcopies : ∀ copy ∈ copies, workflow.Repeats defaults copy := by
    intro copy hcopy
    obtain rfl := List.mem_singleton.1 hcopy
    refine ⟨_, List.mem_singleton.2 rfl, ⟨rfl, ?_⟩, rfl, _, rfl, rfl⟩
    rintro _ ⟨⟩
  refine ⟨hcopies, ?_⟩
  rw [(activation_keeps_workflows_apart answers defaults workflow).2 copies hcopies]
  rfl

/-- A workflow with two nodes for one topic is accepted beside a workflow for another topic. -/
theorem siblings_may_share_key :
    let workflow :=
      listeners "1" [("Listen", "orders"), ("Listen again", "orders")] (.versioned none)
    let answers := ofStore (WorkflowStore.put .empty
      (listeners "2" [("Consume", "returns")] (.legacy true))) ["2"]
    (answers.activation defaults workflow).1 = .ok () ∧
      ∃ node ∈ workflow.nodes, ∃ other ∈ workflow.nodes, node.name ≠ other.name ∧
        node.Works workflow.pinData ∧ other.Works workflow.pinData ∧
          node.SharesKey defaults other := by
  intro workflow answers
  have hunpinned (node : Node) : ∀ value, workflow.pinData.get? node.name = some value →
      value = .null := by
    rintro _ ⟨⟩
  refine ⟨rfl, _, List.mem_cons_self, _, List.mem_cons_of_mem _ List.mem_cons_self, by decide,
    ⟨rfl, hunpinned _⟩, ⟨rfl, hunpinned _⟩, rfl, _, rfl, rfl⟩

end StoreAnswers

end FlowGate
