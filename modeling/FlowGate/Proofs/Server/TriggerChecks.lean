import FlowGate.Proofs.Server.Exclusivity

/-!
# The two checks of triggers

The check before an activation asks for the other registered workflows, active or not, and the check
before a manual run for the other active ones. `validateActivation_agrees` says the two come to the
same result, up to the conflict that they report, as long as every active workflow is registered: a
workflow that is not active holds no key, and what is left is listed in the same order.
-/

namespace FlowGate

open ExclusivityRegistry Server

/-- A workflow has a published version exactly when it is active. -/
theorem Workflow.isSome_activeVersion? (workflow : Workflow) :
    workflow.activeVersion?.isSome = workflow.isActive := by
  rw [activeVersion?]
  cases workflow.isActive <;> rfl

namespace ExclusivityRegistry

variable {registry : ExclusivityRegistry} {nodes : List Node} {others : List WorkflowSummary}
  {nodeType : String} {key : ExclusiveKey}

/-- A holder of a key is active, so it is found among the active workflows. -/
theorem holder?_filter_active :
    registry.holder? nodeType key (others.filter (·.activeVersion.isSome)) =
      registry.holder? nodeType key others := by
  rw [holder?, holder?, List.find?_filter]
  congr 1
  funext summary
  cases summary.activeVersion <;> simp

/-- So a search for a conflict has the same result among the active workflows. -/
theorem ensureNoConflict_filter_active :
    registry.ensureNoConflict nodes (others.filter (·.activeVersion.isSome)) =
      registry.ensureNoConflict nodes others := by
  have hconflict : registry.conflictOf? (others.filter (·.activeVersion.isSome)) =
      registry.conflictOf? others := by
    funext node
    simp only [conflictOf?, holder?_filter_active]
  rw [ensureNoConflict, ensureNoConflict, hconflict]

end ExclusivityRegistry

/-- If a list of ids has those of all active workflows, then the active ones among the workflows
with these ids but one are all the active workflows but one, in the same order. -/
theorem WorkflowStore.filter_find_byIds {store : WorkflowStore} {ids : List String}
    (hids : ∀ id workflow, store.get? id = some workflow → workflow.isActive = true → id ∈ ids)
    (own : String) :
    (store.find (.byIds (ids.filter (· ≠ own)))).filter (·.activeVersion.isSome) =
      store.find (.activeExcluding own) := by
  rw [find, find, List.filter_map, List.filter_filter]
  congr 1
  refine List.filter_congr fun entry hentry ↦ ?_
  have hlisted := hids entry.1 entry.2 (Table.get?_of_mem_entries hentry)
  have hversion : (entry.2.summary.activeVersion.isSome) = entry.2.isActive :=
    entry.2.isSome_activeVersion?
  rw [Function.comp_apply, hversion]
  cases hactive : entry.2.isActive with
  | false => simp [WorkflowFilter.accepts, WorkflowFilter.activeExcluding]
  | true =>
      have hmem := hlisted hactive
      rw [Bool.eq_iff_iff]
      simp [WorkflowFilter.accepts, WorkflowFilter.activeExcluding, WorkflowFilter.byIds, hmem,
        ne_comm]

namespace Server

variable {stores : Stores}

/-- Before a manual run a workflow that is taken as inactive is compared with the other active ones;
the stores stay as they are. -/
theorem run_validateManualRun (registry : ExclusivityRegistry) (workflow : Workflow)
    (trigger : Option String) (stores : Stores) :
    ((triggersWith registry).validateManualRun workflow false trigger).run stores =
      (registry.ensureNoConflict (registry.claimants workflow trigger)
        (stores.workflows.find (.activeExcluding workflow.id)), stores) := by
  have hregistry : (triggersWith registry).registry = registry := rfl
  simp only [TriggerValidation.validateManualRun, hregistry]
  cases registry.claimants workflow trigger <;> rfl

/-- If every active workflow is registered, the check before an activation and the check before a
manual run have the same result for every workflow, and both leave the stores as they are. -/
theorem validateActivation_agrees (registry : ExclusivityRegistry)
    (hregistered : ∀ id, stores.Activates id → stores.Registers id) (workflow : Workflow) :
    ∃ result,
      ((triggersWith registry).validateActivation workflow).run stores = (result, stores) ∧
        ((triggersWith registry).validateManualRun workflow false none).run stores =
          (result, stores) := by
  have hids : ∀ id other, stores.workflows.get? id = some other → other.isActive = true →
      id ∈ stores.active.ids := fun id other hstored hactive ↦
    ActiveRegistry.mem_ids_iff.2 (hregistered id ⟨other, hstored, hactive⟩)
  refine ⟨_, ?_, run_validateManualRun registry workflow none stores⟩
  rw [run_validateActivation_with, ← WorkflowStore.filter_find_byIds hids,
    ensureNoConflict_filter_active]

/-- Two workflows that are registered, of which only the second is active, and a registered id that
is not stored. -/
def staleRegistry : Stores where
  workflows := (WorkflowStore.put .empty (Stores.ordersConsumer "1" (.versioned none))).put
    (Stores.ordersConsumer "2" (.legacy true))
  executions := .empty
  active := .ofList [("1", ()), ("2", ()), ("9", ())]

/-- Both checks report the conflict with the active one of the registered workflows, and neither
with the other one, which is listed before. -/
theorem staleRegistry_agrees :
    let workflow := Stores.ordersConsumer "3" (.versioned none)
    let conflict : TriggerConflict :=
      ⟨"Listen", kafkaTrigger, "groupId=billing, topic=orders", "2", "Orders"⟩
    (∀ id, staleRegistry.Activates id → staleRegistry.Registers id) ∧
      ((triggersWith defaults).validateActivation workflow).run staleRegistry =
        (.error (.parameterConflict conflict), staleRegistry) ∧
      ((triggersWith defaults).validateManualRun workflow false none).run staleRegistry =
        (.error (.parameterConflict conflict), staleRegistry) := by
  intro workflow conflict
  have hregistered : ∀ id, staleRegistry.Activates id → staleRegistry.Registers id := by
    rintro id ⟨stored, hstored, hactive⟩
    simp only [staleRegistry, WorkflowStore.get?_put] at hstored
    split at hstored
    · next hid =>
        subst hid
        rfl
    split at hstored
    · next hid =>
        subst hid
        rfl
    · cases hstored
  obtain ⟨result, hactivation, hmanual⟩ :=
    validateActivation_agrees defaults hregistered workflow
  have hresult : result = .error (.parameterConflict conflict) := by
    have hcheck := congrArg Prod.fst hmanual
    rw [run_validateManualRun] at hcheck
    exact hcheck.symm
  rw [hresult] at hactivation hmanual
  exact ⟨hregistered, hactivation, hmanual⟩

end Server

end FlowGate
