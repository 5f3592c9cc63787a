import FlowGate.Proofs.Trigger.Verdict

/-!
# Conflicts are symmetric

The check before an activation sees the nodes of the workflow that is activated and those of the
published versions of the others in two different ways. `conflict_symmetric` says the two do not
drift apart: of two workflows, each of which is compared with the other one only, either both are
refused for a conflict or neither is. `OnlyOther.conflict_iff` says they are refused exactly if the
two contend.
-/

namespace FlowGate

open ExclusivityRegistry

/-- `summary.Publishes workflow` says the summary shows a published version, and this has the nodes
and the pins of the workflow. -/
def WorkflowSummary.Publishes (summary : WorkflowSummary) (workflow : Workflow) : Prop :=
  ∃ version, summary.activeVersion = some version ∧ version.nodes = workflow.nodes ∧
    version.pinData = workflow.pinData

variable {registry : ExclusivityRegistry} {workflow other : Workflow} {node : Node}
  {summary : WorkflowSummary} {others : List WorkflowSummary} {nodeType : String}
  {key : ExclusiveKey}

/-- What publishes a workflow holds the keys that the workflow claims. -/
theorem WorkflowSummary.Publishes.holds_iff (h : summary.Publishes other) :
    summary.Holds registry nodeType key ↔ other.Claims registry nodeType key := by
  obtain ⟨version, hversion, hnodes, hpins⟩ := h
  unfold WorkflowSummary.Holds Workflow.Claims
  simp only [Node.isLive_iff, ← hnodes, ← hpins]
  constructor
  · intro hexists
    obtain ⟨_, hsame, node, hnode, htype, hworks, hkey⟩ := hexists
    cases hversion.symm.trans hsame
    exact ⟨node, hnode, hworks, htype, hkey⟩
  · intro hexists
    obtain ⟨node, hnode, hworks, htype, hkey⟩ := hexists
    exact ⟨version, hversion, node, hnode, htype, hworks, hkey⟩

/-- A live node with a key is one that may claim it. -/
theorem Node.mayClaim_of_extractKey? {pinData : Table Value} (hlive : node.isLive pinData = true)
    (hkey : registry.extractKey? node = some key) : node.MayClaim registry pinData := by
  refine mayClaim_iff.1 ?_
  rw [isChecked_of_extractKey? hkey, hlive]
  rfl

/-- If another workflow is the only one that is found to be published, the nodes that are contested
are those for whose keys the two contend. -/
theorem Workflow.contends_iff_contested (hfound : ∃ summary ∈ others, summary.Publishes other)
    (honly : ∀ summary ∈ others, summary.activeVersion ≠ none → summary.Publishes other) :
    (∃ node ∈ workflow.nodes, node.Contested registry workflow.pinData others) ↔
      workflow.Contends registry other := by
  constructor
  · intro hexists
    obtain ⟨node, hnode, hclaim, key, hkey, summary, hsummary, hholds⟩ := hexists
    have hpublished : summary.activeVersion ≠ none := by
      obtain ⟨version, hversion, _⟩ := hholds
      rw [hversion]
      exact Option.some_ne_none version
    have hclaims := (honly summary hsummary hpublished).holds_iff.1 hholds
    exact ⟨node.type, key, ⟨node, hnode, Node.isLive_iff.2 hclaim.2, rfl, hkey⟩, hclaims⟩
  · intro hcontends
    obtain ⟨_, key, ⟨node, hnode, hlive, rfl, hkey⟩, hclaims⟩ := hcontends
    obtain ⟨summary, hsummary, hpublishes⟩ := hfound
    exact ⟨node, hnode, Node.mayClaim_of_extractKey? hlive hkey, key, hkey, summary, hsummary,
      hpublishes.holds_iff.2 hclaims⟩

namespace StoreAnswers

variable {answers : StoreAnswers}

/-- `answers.OnlyOther workflow other` says that besides the workflow itself, the other one is the
only one that is live and published. -/
structure OnlyOther (answers : StoreAnswers) (workflow other : Workflow) : Prop where
  /-- The other one is live. -/
  listed : ∃ ids, answers.listed = .ok ids ∧ other.id ∈ ids
  /-- A search for the other one but not for the workflow finds its published version, and no other
  published version. -/
  found : ∀ filter, filter.accepts other.id true = true →
    (∀ isActive, filter.accepts workflow.id isActive = false) →
      ∃ others, answers.found filter = .ok others ∧
        (∃ summary ∈ others, summary.Publishes other) ∧
        ∀ summary ∈ others, summary.activeVersion ≠ none → summary.Publishes other

/-- A workflow is refused for a conflict with the only other one exactly if the two contend. -/
theorem OnlyOther.conflict_iff (h : answers.OnlyOther workflow other)
    (hne : workflow.id ≠ other.id) :
    (∃ conflict, (answers.activation registry workflow).1 = .error (.parameterConflict conflict)) ↔
      workflow.Contends registry other := by
  have hverdict := answers.activation_decided registry workflow
  obtain ⟨ids, hlisted, hother⟩ := h.listed
  obtain ⟨others, hfound, hsome, honly⟩ := h.found (workflow.othersAmong ids)
    (Workflow.accepts_othersAmong.2 ⟨hother, hne.symm⟩)
    (fun isActive ↦ Bool.eq_false_iff.2 fun haccepts ↦
      (Workflow.accepts_othersAmong.1 haccepts).2 rfl)
  have hsearch : ∀ filter ∈ (answers.activation registry workflow).2,
      filter = workflow.othersAmong ids := by
    intro filter hfilter
    obtain ⟨listed, hsame, hfilter⟩ := hverdict.search_eq filter hfilter
    cases hlisted.symm.trans hsame
    exact hfilter
  rw [hverdict.refused_iff, ← Workflow.contends_iff_contested hsome honly]
  constructor
  · intro hexists
    obtain ⟨filter, hfilter, result, hresult, hcontested⟩ := hexists
    cases hsearch filter hfilter
    cases hfound.symm.trans hresult
    exact hcontested
  · intro hcontested
    have ⟨node, hnode, hclaim, _⟩ := hcontested
    -- a contested node is one to search for, and the other one is listed
    obtain ⟨filter, hfilter⟩ := List.exists_mem_of_ne_nil _ <|
      hverdict.searched_iff.2 ⟨⟨node, hnode, hclaim⟩, ids, hlisted, other.id, hother, hne.symm⟩
    cases hsearch filter hfilter
    exact ⟨_, hfilter, others, hfound, hcontested⟩

/-- Over a store, the other workflow is the only one if it is listed and no third one that is stored
is active. -/
theorem onlyOther_ofStore {store : WorkflowStore} {ids : List String} {stored : Workflow}
    (hlisted : other.id ∈ ids) (hstored : store.get? other.id = some stored)
    (hactive : stored.isActive = true) (hnodes : stored.nodes = other.nodes)
    (hpins : stored.pinData = other.pinData)
    (honly : ∀ id third, store.get? id = some third → third.isActive = true →
      id = workflow.id ∨ id = other.id) :
    (ofStore store ids).OnlyOther workflow other where
  listed := ⟨ids, rfl, hlisted⟩
  found filter haccepts hexcludes := by
    have hpublishes : stored.summary.Publishes other :=
      ⟨_, if_pos hactive, hnodes, hpins⟩
    refine ⟨store.find filter, rfl, ⟨stored.summary, ?_, hpublishes⟩, ?_⟩
    · refine WorkflowStore.mem_find_iff.2 ⟨other.id, stored, hstored, ?_, rfl⟩
      rwa [hactive]
    · intro summary hsummary hpublished
      obtain ⟨id, third, hthird, hthirdAccepts, rfl⟩ := WorkflowStore.mem_find_iff.1 hsummary
      have hthirdActive : third.isActive = true := by
        refine Decidable.byContradiction fun hinactive ↦ hpublished ?_
        exact if_neg hinactive
      rcases honly id third hthird hthirdActive with rfl | rfl
      · -- the workflow itself is not searched for
        rw [hexcludes] at hthirdAccepts
        cases hthirdAccepts
      · cases hstored.symm.trans hthird
        exact hpublishes

/-- Of two workflows, each one the only other live and published one when the other is activated,
either both are refused for a conflict or neither is: both are if they contend. -/
theorem conflict_symmetric (registry : ExclusivityRegistry) {left right : Workflow}
    {leftAnswers rightAnswers : StoreAnswers} (hne : left.id ≠ right.id)
    (hleft : leftAnswers.OnlyOther left right) (hright : rightAnswers.OnlyOther right left) :
    ((∃ conflict, (leftAnswers.activation registry left).1 = .error (.parameterConflict conflict)) ↔
        ∃ conflict,
          (rightAnswers.activation registry right).1 = .error (.parameterConflict conflict)) ∧
      ((∃ conflict,
          (leftAnswers.activation registry left).1 = .error (.parameterConflict conflict)) ↔
        left.Contends registry right) := by
  rw [hleft.conflict_iff hne, hright.conflict_iff hne.symm]
  exact ⟨⟨Workflow.Contends.symm, Workflow.Contends.symm⟩, Iff.rfl⟩

/-- A workflow that is stored alone is the only other one. -/
theorem onlyOther_put {ids : List String} (hlisted : other.id ∈ ids)
    (hactive : other.isActive = true) :
    (ofStore (WorkflowStore.put .empty other) ids).OnlyOther workflow other := by
  have hget := WorkflowStore.get?_put .empty other
  refine onlyOther_ofStore hlisted (by rw [hget, if_pos rfl]) hactive rfl rfl ?_
  intro id third hthird _
  rw [hget] at hthird
  split at hthird
  · next hid => exact .inr hid
  · cases hthird

/-- A workflow that consumes the topic `orders`. Its pin is null, so it is no pin. -/
def nullPinned (id : String) (activation : Activation) : Workflow where
  id := id
  name := "Orders"
  nodes :=
    [⟨"Listen", kafkaTrigger, .one,
      .ofList [("groupId", .string "billing"), ("topic", .string "orders")], false, none⟩]
  pinData := .singleton "Listen" .null
  activation := activation

/-- Both of two such workflows are refused while the other one is active. -/
theorem nullPinned_symmetric :
    let left := nullPinned "1" (.legacy true)
    let right := nullPinned "2" (.legacy true)
    let leftAnswers := ofStore (WorkflowStore.put .empty right) ["2", "9"]
    let rightAnswers := ofStore (WorkflowStore.put .empty left) ["1"]
    left.id ≠ right.id ∧ leftAnswers.OnlyOther left right ∧ rightAnswers.OnlyOther right left ∧
      (leftAnswers.activation defaults left).1 = .error (.parameterConflict
        ⟨"Listen", kafkaTrigger, "groupId=billing, topic=orders", "2", "Orders"⟩) ∧
      ∃ conflict,
        (rightAnswers.activation defaults right).1 = .error (.parameterConflict conflict) := by
  intro left right leftAnswers rightAnswers
  have hne : left.id ≠ right.id := by decide
  have hleft : leftAnswers.OnlyOther left right :=
    onlyOther_put List.mem_cons_self rfl
  have hright : rightAnswers.OnlyOther right left :=
    onlyOther_put List.mem_cons_self rfl
  have hconflict : (leftAnswers.activation defaults left).1 = .error (.parameterConflict
      ⟨"Listen", kafkaTrigger, "groupId=billing, topic=orders", "2", "Orders"⟩) := by
    rfl
  exact ⟨hne, hleft, hright, hconflict,
    (conflict_symmetric defaults hne hleft hright).1.1 ⟨_, hconflict⟩⟩

end StoreAnswers

end FlowGate
