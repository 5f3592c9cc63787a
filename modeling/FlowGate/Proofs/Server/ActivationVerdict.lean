import FlowGate.Proofs.Server.TriggerChecks
import FlowGate.Proofs.Trigger.Verdict

/-!
# The verdict on an activation in a server

The check of a server before an activation is that over the answers of its stores
(`run_validateActivation_answers`). A conflict over its stores is reported with another workflow
that is stored and active; `activation_verdict` says so, next to the verdict over all answers that
stores may give.
-/

namespace FlowGate

open ExclusivityRegistry

/-- The answers that the stores of a server give. -/
def Stores.answers (stores : Stores) : StoreAnswers :=
  .ofStore stores.workflows stores.active.ids

namespace Server

/-- The holder of a first conflict among the workflows that a store lists is stored, active and
accepted by the filter. -/
theorem holder_of_firstConflict {registry : ExclusivityRegistry} {workflow : Workflow}
    {store : WorkflowStore} {filter : WorkflowFilter} {conflict : TriggerConflict}
    (hkeyed : store.KeyedBy Workflow.id)
    (hfirst : workflow.FirstConflict registry (store.find filter) conflict) :
    ∃ holder, store.get? conflict.workflowId = some holder ∧ holder.isActive = true ∧
      filter.accepts conflict.workflowId holder.isActive = true ∧
      holder.name = conflict.workflowName := by
  obtain ⟨_, _, _, _, _, _, _, _, sooner, summary, _, hothers, _, hholds, rfl⟩ := hfirst
  have hmem : summary ∈ store.find filter := by
    rw [hothers]
    exact List.mem_append_right sooner List.mem_cons_self
  obtain ⟨id, holder, hstored, haccepts, rfl⟩ := WorkflowStore.mem_find_iff.1 hmem
  obtain ⟨version, hversion, _⟩ := hholds
  have hactive : holder.isActive = true := by
    rw [← holder.isSome_activeVersion?]
    exact Option.isSome_iff_exists.2 ⟨version, hversion⟩
  have hid : holder.id = id := hkeyed id holder hstored
  subst hid
  exact ⟨holder, hstored, hactive, haccepts, rfl⟩

/-- The check of a server before an activation is the check over the answers of its stores. -/
theorem run_validateActivation_answers (registry : ExclusivityRegistry) (workflow : Workflow)
    (stores : Stores) :
    ((triggersWith registry).validateActivation workflow).run stores =
      ((stores.answers.activation registry workflow).1, stores) := by
  rw [run_validateActivation_with]
  refine congrArg (·, stores) ?_
  have houtcome := stores.answers.activation_outcome registry workflow
  generalize stores.answers.activation registry workflow = outcome at houtcome ⊢
  cases houtcome with
  | idle hnone => exact ensureNoConflict_of_isEmpty (.inl (isEmpty_claimants_iff.2 hnone))
  | unlisted _ _ hlisted => cases hlisted
  | alone ids _ hlisted hids =>
      cases hlisted
      have hothers : stores.active.ids.filter (· ≠ workflow.id) = [] := by
        simpa [List.filter_eq_nil_iff] using hids
      rw [hothers, find_byIds_nil]
      exact ensureNoConflict_of_isEmpty (.inr rfl)
  | unanswered _ _ _ _ _ hfound => cases hfound
  | compared ids others _ hlisted _ hfound =>
      cases hlisted
      cases hfound
      rfl

/-- The check before an activation searches at most once, fails with a lookup that fails, and
reports the first conflict exactly if there is one. Over the stores of a server the conflict is with
another workflow, stored and active. -/
theorem activation_verdict (registry : ExclusivityRegistry) (workflow : Workflow) :
    (∀ answers : StoreAnswers, answers.ActivationVerdict registry workflow
      (answers.activation registry workflow).1 (answers.activation registry workflow).2) ∧
    ∀ stores : Stores, stores.workflows.KeyedBy Workflow.id → ∀ conflict after,
      ((triggersWith registry).validateActivation workflow).run stores =
          (.error (.parameterConflict conflict), after) →
        ∃ holder, stores.workflows.get? conflict.workflowId = some holder ∧
          holder.isActive = true ∧ conflict.workflowId ≠ workflow.id ∧
          holder.name = conflict.workflowName := by
  refine ⟨fun answers ↦ answers.activation_decided registry workflow, ?_⟩
  intro stores hkeyed conflict after hrun
  rw [run_validateActivation_answers] at hrun
  have hverdict := stores.answers.activation_decided registry workflow
  obtain ⟨filter, hfilter, _, hfound, hfirst⟩ :=
    (hverdict.conflict_iff conflict).1 (congrArg Prod.fst hrun)
  obtain ⟨_, _, rfl⟩ := hverdict.search_eq filter hfilter
  cases hfound
  obtain ⟨holder, hstored, hactive, haccepts, hname⟩ := holder_of_firstConflict hkeyed hfirst
  -- the filter accepts no workflow of the same id
  have hother := (Workflow.accepts_othersAmong.1 haccepts).2
  exact ⟨holder, hstored, hactive, hother, hname⟩

theorem staleRegistry_keyed : staleRegistry.workflows.KeyedBy Workflow.id :=
  WorkflowStore.keyed_put (WorkflowStore.keyed_put (Table.keyedBy_empty _) _) _

/-- Of the registered workflows of `staleRegistry`, the one that is active is reported. -/
theorem staleRegistry_verdict :
    let workflow := Stores.ordersConsumer "3" (.versioned none)
    let conflict : TriggerConflict :=
      ⟨"Listen", kafkaTrigger, "groupId=billing, topic=orders", "2", "Orders"⟩
    staleRegistry.workflows.KeyedBy Workflow.id ∧
      ((triggersWith defaults).validateActivation workflow).run staleRegistry =
        (.error (.parameterConflict conflict), staleRegistry) ∧
      ∃ holder, staleRegistry.workflows.get? "2" = some holder ∧ holder.isActive = true ∧
        "2" ≠ workflow.id ∧ holder.name = "Orders" := by
  intro workflow conflict
  have hrun : ((triggersWith defaults).validateActivation workflow).run staleRegistry =
      (.error (.parameterConflict conflict), staleRegistry) := by
    rw [run_validateActivation_with]
    rfl
  exact ⟨staleRegistry_keyed, hrun,
    (activation_verdict defaults workflow).2 staleRegistry staleRegistry_keyed conflict _ hrun⟩

end Server

end FlowGate
