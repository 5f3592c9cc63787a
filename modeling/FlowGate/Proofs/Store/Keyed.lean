import FlowGate.Server.Seed

/-!
# Records under their own ids

Both stores take a record in under its own id, so a lookup by an id answers with a record of that
id. `Table.KeyedBy` states this of a table, and the lemmas after it say that the operations of the
two stores keep it; by `Stores.keyed_load` it holds of all stores that were filled from a seed. The
content of the stores after `put`, `tryTransition` and `setActiveVersion` is given by one lemma for
each.
-/

namespace FlowGate

namespace Table

variable {α : Type} {table : Table α} {key : α → String}

/-- `table.KeyedBy key` says every value is stored under its own key. -/
def KeyedBy (key : α → String) (table : Table α) : Prop :=
  ∀ name value, table.get? name = some value → key value = name

theorem keyedBy_empty (key : α → String) : (empty : Table α).KeyedBy key := by
  intro name value h
  cases h

/-- Storing a value under its own key keeps every value under its own key. -/
theorem KeyedBy.insert (h : table.KeyedBy key) {name : String} {value : α}
    (hvalue : key value = name) : (table.insert name value).KeyedBy key := by
  intro other found hfound
  rw [get?_insert] at hfound
  split at hfound
  · next heq =>
      cases hfound
      exact hvalue.trans heq.symm
  · exact h other found hfound

/-- Of two values stored under one key the later one counts. -/
@[simp]
theorem insert_insert (table : Table α) (name : String) (first second : α) :
    (table.insert name first).insert name second = table.insert name second := by
  refine eq_of_get?_eq fun other ↦ ?_
  simp only [get?_insert]
  split <;> rfl

/-- Steps that keep every value under its own key do so one after the other. -/
theorem KeyedBy.foldl {β : Type} {step : Table α → β → Table α} (h : table.KeyedBy key)
    (hstep : ∀ table item, table.KeyedBy key → (step table item).KeyedBy key) (items : List β) :
    (items.foldl step table).KeyedBy key := by
  induction items generalizing table with
  | nil => exact h
  | cons item rest ih => exact ih (hstep table item h)

end Table

namespace ExecutionStore

variable {store after : ExecutionStore} {id : String} {expected target : ExecutionStatus}

/-- After an execution was stored, its id leads to it and every other id to what it led to. -/
theorem get?_put (store : ExecutionStore) (execution : Execution) (id : String) :
    (store.put execution).get? id = if id = execution.id then some execution else store.get? id :=
  Table.get?_insert store execution.id execution id

theorem keyed_put (h : store.KeyedBy Execution.id) (execution : Execution) :
    (store.put execution).KeyedBy Execution.id :=
  h.insert rfl

/-- A transition succeeds exactly on an unfinished execution with the expected status, and changes
nothing but the status. -/
theorem tryTransition_eq_ok_iff :
    store.tryTransition id expected target = .ok after ↔
      ∃ execution, store.get? id = some execution ∧ execution.status = expected ∧
        execution.finished = false ∧
        after = store.insert id { execution with status := target } := by
  unfold tryTransition
  cases store.get? id with
  | none => simp
  | some execution =>
      constructor
      · intro h
        simp only at h
        split at h
        · cases h
        next hstate =>
        cases h
        rw [not_or, Decidable.not_not, Bool.not_eq_true] at hstate
        exact ⟨execution, rfl, hstate.1, hstate.2, rfl⟩
      · intro hexists
        obtain ⟨_, hstored, hstatus, hfinished, rfl⟩ := hexists
        cases hstored
        simp [hstatus, hfinished]

/-- A transition of a stored execution fails only because its state is not the expected one. -/
theorem eq_conflict_of_tryTransition {execution : Execution} {error : RepositoryError}
    (hstored : store.get? id = some execution)
    (h : store.tryTransition id expected target = .error error) :
    error = .conflict (transitionConflict id execution.status expected) := by
  simp only [tryTransition, hstored] at h
  split at h
  · cases h
    rfl
  · cases h

end ExecutionStore

namespace WorkflowStore

variable {store after : WorkflowStore} {id : String} {version : Option String}
  {published : Workflow} {filter : WorkflowFilter} {summary : WorkflowSummary}

/-- After a workflow was stored, its id leads to it and every other id to what it led to. -/
theorem get?_put (store : WorkflowStore) (workflow : Workflow) (id : String) :
    (store.put workflow).get? id = if id = workflow.id then some workflow else store.get? id :=
  Table.get?_insert store workflow.id workflow id

theorem keyed_put (h : store.KeyedBy Workflow.id) (workflow : Workflow) :
    (store.put workflow).KeyedBy Workflow.id :=
  h.insert rfl

/-- A version is published exactly for a stored workflow, and changes nothing but its
activation. -/
theorem setActiveVersion_eq_ok_iff :
    store.setActiveVersion id version = .ok (published, after) ↔
      ∃ workflow, store.get? id = some workflow ∧
        published = { workflow with activation := .versioned version } ∧
        after = store.insert id published := by
  unfold setActiveVersion
  cases store.get? id with
  | none => simp
  | some workflow =>
      constructor
      · rintro ⟨⟩
        exact ⟨workflow, rfl, rfl, rfl⟩
      · intro hexists
        obtain ⟨_, hstored, rfl, rfl⟩ := hexists
        cases hstored
        rfl

/-- A store lists the summaries of the stored workflows that the filter accepts. -/
theorem mem_find_iff :
    summary ∈ store.find filter ↔
      ∃ id workflow, store.get? id = some workflow ∧
        filter.accepts id workflow.isActive = true ∧ workflow.summary = summary := by
  rw [find, List.mem_map]
  constructor
  · intro hexists
    obtain ⟨entry, hentry, hsummary⟩ := hexists
    obtain ⟨hmem, haccepts⟩ := List.mem_filter.1 hentry
    exact ⟨entry.1, entry.2, Table.get?_of_mem_entries hmem, haccepts, hsummary⟩
  · intro hexists
    obtain ⟨id, workflow, hstored, haccepts, hsummary⟩ := hexists
    have hmem := Table.mem_entries_of_get? hstored
    exact ⟨(id, workflow), List.mem_filter.2 ⟨hmem, haccepts⟩, hsummary⟩

end WorkflowStore

/-- Loading a seed keeps every record under its own id. -/
theorem Stores.keyed_load {stores : Stores} (seed : Seed)
    (hworkflows : stores.workflows.KeyedBy Workflow.id)
    (hexecutions : stores.executions.KeyedBy Execution.id) :
    (stores.load seed).workflows.KeyedBy Workflow.id ∧
      (stores.load seed).executions.KeyedBy Execution.id :=
  ⟨hworkflows.foldl (fun _ _ h ↦ WorkflowStore.keyed_put h _) seed.workflows,
    hexecutions.foldl (fun _ _ h ↦ ExecutionStore.keyed_put h _) seed.executions⟩

/-- The listed ids are those that are registered. -/
theorem ActiveRegistry.mem_ids_iff {registry : ActiveRegistry} {id : String} :
    id ∈ registry.ids ↔ registry.contains id = true := by
  rw [ids, Table.keys, List.mem_map, Table.contains, Option.isSome_iff_exists]
  constructor
  · intro hexists
    obtain ⟨entry, hentry, rfl⟩ := hexists
    exact ⟨entry.2, Table.get?_of_mem_entries hentry⟩
  · intro hexists
    obtain ⟨value, hvalue⟩ := hexists
    exact ⟨(id, value), Table.mem_entries_of_get? hvalue, rfl⟩

end FlowGate
