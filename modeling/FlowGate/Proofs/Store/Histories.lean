import Mathlib.Data.List.Induction
import FlowGate.Proofs.Store.Listings

/-!
# Histories of the stores

A history is a list of writes to the stores of a server, oldest first. `Stores.perform` carries one
write out and gives its answer, `Stores.afterWrites` carries out a history. `Latest` says what the
last write of some kind was and which writes came after it.

`Stores.Follows` describes stores by their history alone: which record each id leads to, what the
stores list and what they answer to a further write. `stores_follow_history` says that stores that
began empty follow their history, however long it is. Filling stores from a seed is such a history
(`Stores.load_empty`).
-/

namespace FlowGate

universe u v

/-! ## The last element of a kind -/

section Latest

variable {α : Type u} {β : Type v} {pick : α → Option β} {history later : List α} {last : α}
  {found : β}

/-- `Latest pick history found later` says the last element of the history from which something is
picked gives `found`, and `later` are the elements after it. -/
def Latest (pick : α → Option β) (history : List α) (found : β) (later : List α) : Prop :=
  ∃ earlier item, history = earlier ++ item :: later ∧ pick item = some found ∧
    ∀ other ∈ later, pick other = none

theorem not_latest_nil : ¬ Latest pick [] found later := by
  rintro ⟨earlier, item, hsplit, _⟩
  exact absurd hsplit.symm (by simp)

/-- The last element of a history either is the one that counts or comes after it. -/
theorem latest_concat_iff :
    Latest pick (history ++ [last]) found later ↔
      (pick last = some found ∧ later = []) ∨
      (pick last = none ∧ ∃ before, later = before ++ [last] ∧
        Latest pick history found before) := by
  constructor
  · rintro ⟨earlier, item, hsplit, hpick, hlater⟩
    rcases List.eq_nil_or_concat later with rfl | ⟨before, final, hconcat⟩
    · obtain ⟨_, hitem⟩ := List.append_inj' hsplit rfl
      obtain rfl := List.singleton_inj.1 hitem
      exact .inl ⟨hpick, rfl⟩
    · rw [List.concat_eq_append] at hconcat
      subst hconcat
      rw [← List.cons_append, ← List.append_assoc] at hsplit
      obtain ⟨hhistory, hfinal⟩ := List.append_inj' hsplit rfl
      obtain rfl := List.singleton_inj.1 hfinal
      obtain ⟨hbefore, hlast⟩ := List.forall_mem_append.1 hlater
      exact .inr ⟨hlast last List.mem_cons_self, before, rfl, earlier, item, hhistory, hpick,
        hbefore⟩
  · rintro (⟨hpick, rfl⟩ | ⟨hnone, before, rfl, earlier, item, rfl, hpick, hbefore⟩)
    · exact ⟨history, last, rfl, hpick, List.forall_mem_nil _⟩
    · refine ⟨earlier, item, by simp, hpick, List.forall_mem_append.2 ⟨hbefore, ?_⟩⟩
      exact List.forall_mem_singleton.2 hnone

/-- A content that some elements of a history replace and the others change is what the last of the
former gave, with the changes made since. -/
theorem eq_some_iff_latest (pick : α → Option β) (content : List α → Option β)
    (change : α → β → β) (hnil : content [] = none)
    (hconcat : ∀ history last, content (history ++ [last]) =
      (pick last).or ((content history).map (change last)))
    (history : List α) (value : β) :
    content history = some value ↔ ∃ found later, Latest pick history found later ∧
      value = later.foldl (fun value item ↦ change item value) found := by
  induction history using List.reverseRecOn generalizing value with
  | nil => simp [hnil, not_latest_nil]
  | append_singleton history last ih =>
      simp only [hconcat, latest_concat_iff]
      cases hpick : pick last with
      | some found =>
          simp only [Option.some_or, Option.some.injEq]
          constructor
          · rintro rfl
            exact ⟨found, [], .inl ⟨rfl, rfl⟩, rfl⟩
          · rintro ⟨_, _, ⟨rfl, rfl⟩ | ⟨hnone, _⟩, rfl⟩
            · rfl
            · cases hnone
      | none =>
          simp only [Option.none_or, Option.map_eq_some_iff, ih]
          constructor
          · rintro ⟨_, ⟨found, before, hlatest, rfl⟩, rfl⟩
            exact ⟨found, before ++ [last], .inr ⟨trivial, before, rfl, hlatest⟩, by simp⟩
          · rintro ⟨found, _, ⟨hnone, _⟩ | ⟨_, before, rfl, hlatest⟩, rfl⟩
            · cases hnone
            · exact ⟨_, ⟨found, before, hlatest, rfl⟩, by simp⟩

end Latest

/-! ## Writes -/

/-- A write to one of the stores. -/
inductive StoreWrite where
  | putWorkflow (workflow : Workflow)
  /-- Publishes a version of a workflow or withdraws it. -/
  | publish (id : String) (version : Option String)
  | putExecution (execution : Execution)
  /-- Changes the status of an unfinished execution if it has the expected one. -/
  | move (id : String) (expected target : ExecutionStatus)
  /-- Adds an id to the live ones. -/
  | register (id : String)
  /-- Removes an id from the live ones. -/
  | unregister (id : String)

/-- The answer to a write. -/
inductive WriteAnswer where
  /-- A record was stored, which cannot fail. -/
  | stored
  | published (result : Except RepositoryError Workflow)
  | moved (result : Except RepositoryError Unit)
  /-- Whether the live ids have changed. -/
  | changed (hasChanged : Bool)

/-- `answer.Fails` says the write was refused. -/
def WriteAnswer.Fails (answer : WriteAnswer) : Prop :=
  (∃ error, answer = .published (.error error)) ∨ ∃ error, answer = .moved (.error error)

namespace Stores

/-- Carries out a write. -/
def perform (stores : Stores) : StoreWrite → WriteAnswer × Stores
  | .putWorkflow workflow =>
      (.stored, { stores with workflows := stores.workflows.put workflow })
  | .publish id version =>
      match stores.workflows.setActiveVersion id version with
      | .ok (workflow, after) => (.published (.ok workflow), { stores with workflows := after })
      | .error error => (.published (.error error), stores)
  | .putExecution execution =>
      (.stored, { stores with executions := stores.executions.put execution })
  | .move id expected target =>
      match stores.executions.tryTransition id expected target with
      | .ok after => (.moved (.ok ()), { stores with executions := after })
      | .error error => (.moved (.error error), stores)
  | .register id =>
      let (isNew, after) := ActiveRegistry.add stores.active id
      (.changed isNew, { stores with active := after })
  | .unregister id =>
      let (wasThere, after) := ActiveRegistry.remove stores.active id
      (.changed wasThere, { stores with active := after })

/-- Carries out a history, whatever the answers are. -/
def afterWrites (stores : Stores) (history : List StoreWrite) : Stores :=
  history.foldl (fun stores write ↦ (stores.perform write).2) stores

variable {stores : Stores} {id : String} {version : Option String} {published : Workflow}
  {expected target : ExecutionStatus}

theorem afterWrites_concat (stores : Stores) (history : List StoreWrite) (write : StoreWrite) :
    stores.afterWrites (history ++ [write]) = ((stores.afterWrites history).perform write).2 := by
  rw [afterWrites, List.foldl_append]
  rfl

theorem afterWrites_append (stores : Stores) (history further : List StoreWrite) :
    stores.afterWrites (history ++ further) = (stores.afterWrites history).afterWrites further := by
  rw [afterWrites, List.foldl_append]
  rfl

/-- Stores that were filled from a seed have a history: its records were stored and its live ids
registered. -/
theorem load_empty (seed : Seed) :
    empty.load seed = empty.afterWrites
      (seed.workflows.map (fun snapshot ↦ .putWorkflow (.ofSnapshot snapshot)) ++
        seed.executions.map .putExecution ++ seed.active.map .register) := by
  have hworkflows (stores : Stores) (snapshots : List Snapshot) :
      stores.afterWrites (snapshots.map fun snapshot ↦ .putWorkflow (.ofSnapshot snapshot)) =
        (stores.load ⟨snapshots, [], []⟩) := by
    induction snapshots generalizing stores with
    | nil => rfl
    | cons snapshot rest ih => exact ih _
  have hexecutions (stores : Stores) (executions : List Execution) :
      stores.afterWrites (executions.map .putExecution) = stores.load ⟨[], executions, []⟩ := by
    induction executions generalizing stores with
    | nil => rfl
    | cons execution rest ih => exact ih _
  have hactive (stores : Stores) (ids : List String) :
      stores.afterWrites (ids.map .register) = stores.load ⟨[], [], ids⟩ := by
    induction ids generalizing stores with
    | nil => rfl
    | cons id rest ih => exact ih _
  rw [afterWrites_append, afterWrites_append, hworkflows, hexecutions, hactive]
  rfl

end Stores

/-! ## What a write does to one record -/

/-- A transition that failed was not for the state of the execution. -/
theorem ExecutionStore.not_ready_of_tryTransition {store : ExecutionStore} {id : String}
    {expected target : ExecutionStatus} {execution : Execution} {error : RepositoryError}
    (h : store.tryTransition id expected target = .error error)
    (hstored : store.get? id = some execution) :
    ¬ (execution.status = expected ∧ execution.finished = false) := by
  rintro ⟨hstatus, hfinished⟩
  have hok : store.tryTransition id expected target = .ok _ :=
    tryTransition_eq_ok_iff.2 ⟨execution, hstored, hstatus, hfinished, rfl⟩
  cases h.symm.trans hok

namespace StoreWrite

/-- The workflow that a write puts under an id. -/
def workflow? (id : String) : StoreWrite → Option Workflow
  | .putWorkflow workflow => if workflow.id = id then some workflow else none
  | _ => none

/-- How the workflow with an id records its activity after a write that does not replace it. -/
def mark (id : String) (activation : Activation) : StoreWrite → Activation
  | .publish other version => if other = id then .versioned version else activation
  | _ => activation

/-- The execution that a write puts under an id. -/
def execution? (id : String) : StoreWrite → Option Execution
  | .putExecution execution => if execution.id = id then some execution else none
  | _ => none

/-- The status of the execution with an id after a write that does not replace it. -/
def settle (id : String) (finished : Bool) (status : ExecutionStatus) :
    StoreWrite → ExecutionStatus
  | .move other expected target =>
      if other = id ∧ status = expected ∧ finished = false then target else status
  | _ => status

/-- Whether a write adds an id to the live ones or removes it. -/
def registers? (id : String) : StoreWrite → Option Bool
  | .register other => if other = id then some true else none
  | .unregister other => if other = id then some false else none
  | _ => none

end StoreWrite

namespace Stores

variable {stores : Stores} {id : String} {version : Option String} {published : Workflow}
  {expected target : ExecutionStatus}

/-- A write replaces the workflow with an id, or changes nothing of it but its activation. -/
theorem get?_workflows_perform (stores : Stores) (write : StoreWrite) (id : String) :
    (stores.perform write).2.workflows.get? id = (write.workflow? id).or
      ((stores.workflows.get? id).map fun workflow ↦
        { workflow with activation := write.mark id workflow.activation }) := by
  cases write with
  | putWorkflow workflow =>
      simp only [perform, WorkflowStore.get?_put, StoreWrite.workflow?, StoreWrite.mark]
      by_cases h : workflow.id = id
      · simp [h]
      · simp [h, Ne.symm h]
  | publish other version =>
      simp only [perform, WorkflowStore.setActiveVersion, StoreWrite.workflow?, StoreWrite.mark,
        Option.none_or]
      cases hstored : stores.workflows.get? other with
      | none =>
          by_cases h : other = id
          · simp [← h, hstored]
          · simp [h]
      | some workflow =>
          simp only [Table.get?_insert]
          by_cases h : other = id
          · simp [← h, hstored]
          · simp [h, Ne.symm h]
  | putExecution | register | unregister =>
      simp [perform, StoreWrite.workflow?, StoreWrite.mark]
  | move other expected target =>
      simp only [perform, StoreWrite.workflow?, StoreWrite.mark]
      cases stores.executions.tryTransition other expected target <;> simp

/-- A write replaces the execution with an id, or changes nothing of it but its status. -/
theorem get?_executions_perform (stores : Stores) (write : StoreWrite) (id : String) :
    (stores.perform write).2.executions.get? id = (write.execution? id).or
      ((stores.executions.get? id).map fun execution ↦
        { execution with status := write.settle id execution.finished execution.status }) := by
  cases write with
  | putExecution execution =>
      simp only [perform, ExecutionStore.get?_put, StoreWrite.execution?, StoreWrite.settle]
      by_cases h : execution.id = id
      · simp [h]
      · simp [h, Ne.symm h]
  | move other expected target =>
      simp only [perform, StoreWrite.execution?, StoreWrite.settle, Option.none_or]
      cases hresult : stores.executions.tryTransition other expected target with
      | ok after =>
          obtain ⟨execution, hstored, hstatus, hfinished, rfl⟩ :=
            ExecutionStore.tryTransition_eq_ok_iff.1 hresult
          simp only [Table.get?_insert]
          by_cases h : other = id
          · simp [← h, hstored, hstatus, hfinished]
          · simp [h, Ne.symm h]
      | error error =>
          cases hstored : stores.executions.get? id with
          | none => rfl
          | some execution =>
              have hnot : ¬ (other = id ∧ execution.status = expected ∧
                  execution.finished = false) := by
                rintro ⟨rfl, hready⟩
                exact ExecutionStore.not_ready_of_tryTransition hresult hstored hready
              rw [Option.map_some, if_neg hnot]
  | putWorkflow | register | unregister =>
      simp [perform, StoreWrite.execution?, StoreWrite.settle]
  | publish other version =>
      simp only [perform, StoreWrite.execution?, StoreWrite.settle]
      cases stores.workflows.setActiveVersion other version <;> simp

/-- A write adds an id to the live ones, removes it or leaves it as it is. -/
theorem contains_active_perform (stores : Stores) (write : StoreWrite) (id : String) :
    (stores.perform write).2.active.contains id =
      (write.registers? id).getD (stores.active.contains id) := by
  cases write with
  | register other | unregister other =>
      simp only [perform, ActiveRegistry.add, ActiveRegistry.remove, Table.contains,
        Table.get?_insert, Table.get?_erase, StoreWrite.registers?]
      by_cases h : other = id
      · simp [h]
      · simp [h, Ne.symm h]
  | putWorkflow | putExecution => rfl
  | publish other version =>
      simp only [perform, StoreWrite.registers?]
      cases stores.workflows.setActiveVersion other version <;> rfl
  | move other expected target =>
      simp only [perform, StoreWrite.registers?]
      cases stores.executions.tryTransition other expected target <;> rfl

/-- A write keeps every record under its own id. -/
theorem keyed_perform (hworkflows : stores.workflows.KeyedBy Workflow.id)
    (hexecutions : stores.executions.KeyedBy Execution.id) (write : StoreWrite) :
    (stores.perform write).2.workflows.KeyedBy Workflow.id ∧
      (stores.perform write).2.executions.KeyedBy Execution.id := by
  cases write with
  | putWorkflow workflow => exact ⟨WorkflowStore.keyed_put hworkflows workflow, hexecutions⟩
  | publish id version =>
      simp only [perform]
      cases hresult : stores.workflows.setActiveVersion id version with
      | error error => exact ⟨hworkflows, hexecutions⟩
      | ok result =>
          obtain ⟨workflow, hstored, hpublished, hafter⟩ :=
            WorkflowStore.setActiveVersion_eq_ok_iff.1 hresult
          refine ⟨?_, hexecutions⟩
          show result.2.KeyedBy Workflow.id
          rw [hafter, hpublished]
          exact hworkflows.insert (hworkflows id workflow hstored)
  | putExecution execution => exact ⟨hworkflows, ExecutionStore.keyed_put hexecutions execution⟩
  | move id expected target =>
      simp only [perform]
      cases hresult : stores.executions.tryTransition id expected target with
      | error error => exact ⟨hworkflows, hexecutions⟩
      | ok after =>
          obtain ⟨execution, hstored, _, _, rfl⟩ :=
            ExecutionStore.tryTransition_eq_ok_iff.1 hresult
          exact ⟨hworkflows, hexecutions.insert (hexecutions id execution hstored)⟩
  | register | unregister => exact ⟨hworkflows, hexecutions⟩

/-! ## Answers -/

/-- A refused write changes nothing. -/
theorem perform_eq_self_of_fails {write : StoreWrite} (h : (stores.perform write).1.Fails) :
    (stores.perform write).2 = stores := by
  cases write with
  | publish id version =>
      simp only [perform] at h ⊢
      cases hresult : stores.workflows.setActiveVersion id version with
      | ok after => simp [hresult, WriteAnswer.Fails] at h
      | error error => rfl
  | move id expected target =>
      simp only [perform] at h ⊢
      cases hresult : stores.executions.tryTransition id expected target with
      | ok after => simp [hresult, WriteAnswer.Fails] at h
      | error error => rfl
  | putWorkflow | putExecution | register | unregister => simp [perform, WriteAnswer.Fails] at h

/-- A version is published for a stored workflow, and changes nothing of it but its activation. -/
theorem perform_publish_iff :
    (stores.perform (.publish id version)).1 = .published (.ok published) ↔
      ∃ workflow, stores.workflows.get? id = some workflow ∧
        published = { workflow with activation := .versioned version } := by
  simp only [perform, WorkflowStore.setActiveVersion]
  cases stores.workflows.get? id with
  | none => simp
  | some workflow => simp [eq_comm]

/-- An execution is moved if it is stored, unfinished and has the expected status. -/
theorem perform_move_iff :
    (stores.perform (.move id expected target)).1 = .moved (.ok ()) ↔
      ∃ execution, stores.executions.get? id = some execution ∧ execution.status = expected ∧
        execution.finished = false := by
  simp only [perform]
  cases hresult : stores.executions.tryTransition id expected target with
  | ok after =>
      obtain ⟨execution, hstored, hstatus, hfinished, _⟩ :=
        ExecutionStore.tryTransition_eq_ok_iff.1 hresult
      exact ⟨fun _ ↦ ⟨execution, hstored, hstatus, hfinished⟩, fun _ ↦ rfl⟩
  | error error =>
      constructor
      · intro h
        cases h
      · rintro ⟨execution, hstored, hready⟩
        cases ExecutionStore.not_ready_of_tryTransition hresult hstored hready

/-- Adding or removing an id answers whether this changed that it is live. -/
theorem perform_registers {write : StoreWrite} (h : write = .register id ∨ write = .unregister id) :
    (stores.perform write).1 = .changed (decide
      ¬ (id ∈ (stores.perform write).2.active.ids ↔ id ∈ stores.active.ids)) := by
  simp only [ActiveRegistry.mem_ids_iff, contains_active_perform]
  rcases h with rfl | rfl
  · cases hlive : stores.active.contains id <;>
      simp [perform, ActiveRegistry.add, StoreWrite.registers?, hlive]
  · cases hlive : stores.active.contains id <;>
      simp [perform, ActiveRegistry.remove, StoreWrite.registers?, hlive]

/-! ## Histories -/

/-- `stores.Follows history` says what the stores hold and answer is what the history leaves. -/
structure Follows (stores : Stores) (history : List StoreWrite) : Prop where
  /-- Every workflow is stored under its own id. -/
  workflows_keyed : stores.workflows.KeyedBy Workflow.id
  /-- Every execution is stored under its own id. -/
  executions_keyed : stores.executions.KeyedBy Execution.id
  /-- An id leads to the workflow that was put last, with the activation that was published
  since. -/
  workflow_iff : ∀ id workflow, stores.workflows.get? id = some workflow ↔
    ∃ inserted later, Latest (StoreWrite.workflow? id) history inserted later ∧
      workflow = { inserted with
        activation := later.foldl (StoreWrite.mark id) inserted.activation }
  /-- An id leads to the execution that was put last, with the moves that applied since. -/
  execution_iff : ∀ id execution, stores.executions.get? id = some execution ↔
    ∃ inserted later, Latest (StoreWrite.execution? id) history inserted later ∧
      execution = { inserted with
        status := later.foldl (StoreWrite.settle id inserted.finished) inserted.status }
  /-- The live ids are those that were added and not removed since. -/
  live_iff : ∀ id, id ∈ stores.active.ids ↔
    ∃ later, Latest (StoreWrite.registers? id) history true later
  /-- The live ids are listed in strictly ascending order. -/
  live_ascending : stores.active.ids.Pairwise (· < ·)
  /-- In whatever order the live ids are taken, sorting them gives the list. -/
  live_any_order : ∀ ids : List String, ids.Perm stores.active.ids →
    ids.mergeSort (fun left right ↦ left ≤ right) = stores.active.ids
  /-- A search lists each workflow that is asked for once, in ascending order. -/
  lists : ∀ filter, stores.workflows.Lists filter (stores.workflows.find filter)
  /-- Publishing succeeds for a stored workflow. -/
  publish_iff : ∀ id version published,
    (stores.perform (.publish id version)).1 = .published (.ok published) ↔
      ∃ workflow, stores.workflows.get? id = some workflow ∧
        published = { workflow with activation := .versioned version }
  /-- A move succeeds if the execution is stored, unfinished and has the expected status. -/
  move_iff : ∀ id expected target,
    (stores.perform (.move id expected target)).1 = .moved (.ok ()) ↔
      ∃ execution, stores.executions.get? id = some execution ∧ execution.status = expected ∧
        execution.finished = false
  /-- A refused write changes nothing. -/
  unchanged : ∀ write, (stores.perform write).1.Fails → (stores.perform write).2 = stores
  /-- Adding and removing an id answer whether this changed that it is live. -/
  registers : ∀ id write, write = .register id ∨ write = .unregister id →
    (stores.perform write).1 = .changed (decide
      ¬ (id ∈ (stores.perform write).2.active.ids ↔ id ∈ stores.active.ids))

theorem keyed_afterWrites (history : List StoreWrite) :
    (empty.afterWrites history).workflows.KeyedBy Workflow.id ∧
      (empty.afterWrites history).executions.KeyedBy Execution.id := by
  induction history using List.reverseRecOn with
  | nil => exact ⟨Table.keyedBy_empty _, Table.keyedBy_empty _⟩
  | append_singleton history write ih =>
      rw [afterWrites_concat]
      exact keyed_perform ih.1 ih.2 write

/-- Changes of the activation leave the rest of a workflow as it was. -/
theorem foldl_mark (id : String) (later : List StoreWrite) (workflow : Workflow) :
    later.foldl (fun workflow write ↦
        { workflow with activation := write.mark id workflow.activation }) workflow =
      { workflow with activation := later.foldl (StoreWrite.mark id) workflow.activation } := by
  induction later generalizing workflow with
  | nil => rfl
  | cons write rest ih => exact ih _

/-- Changes of the status leave the rest of an execution as it was. -/
theorem foldl_settle (id : String) (later : List StoreWrite) (execution : Execution) :
    later.foldl (fun execution write ↦
        { execution with status := write.settle id execution.finished execution.status })
      execution =
      { execution with
        status := later.foldl (StoreWrite.settle id execution.finished) execution.status } := by
  induction later generalizing execution with
  | nil => rfl
  | cons write rest ih => exact ih _

theorem get?_workflows_afterWrites_iff {history : List StoreWrite} {workflow : Workflow} :
    (empty.afterWrites history).workflows.get? id = some workflow ↔
      ∃ inserted later, Latest (StoreWrite.workflow? id) history inserted later ∧
        workflow = { inserted with
          activation := later.foldl (StoreWrite.mark id) inserted.activation } := by
  have hiff := eq_some_iff_latest (StoreWrite.workflow? id)
    (fun history ↦ (empty.afterWrites history).workflows.get? id)
    (fun write workflow ↦ { workflow with activation := write.mark id workflow.activation })
    rfl (fun history write ↦ by rw [afterWrites_concat, get?_workflows_perform]) history workflow
  simpa only [foldl_mark] using hiff

theorem get?_executions_afterWrites_iff {history : List StoreWrite} {execution : Execution} :
    (empty.afterWrites history).executions.get? id = some execution ↔
      ∃ inserted later, Latest (StoreWrite.execution? id) history inserted later ∧
        execution = { inserted with
          status := later.foldl (StoreWrite.settle id inserted.finished) inserted.status } := by
  have hiff := eq_some_iff_latest (StoreWrite.execution? id)
    (fun history ↦ (empty.afterWrites history).executions.get? id)
    (fun write execution ↦
      { execution with status := write.settle id execution.finished execution.status })
    rfl (fun history write ↦ by rw [afterWrites_concat, get?_executions_perform]) history execution
  simpa only [foldl_settle] using hiff

/-- The live ids are those that were added and not removed since. -/
theorem contains_active_afterWrites_iff {history : List StoreWrite} :
    (empty.afterWrites history).active.contains id = true ↔
      ∃ later, Latest (StoreWrite.registers? id) history true later := by
  induction history using List.reverseRecOn with
  | nil =>
      simp only [not_latest_nil, exists_const, iff_false]
      exact Bool.false_ne_true
  | append_singleton history write ih =>
      rw [afterWrites_concat, contains_active_perform]
      simp only [latest_concat_iff]
      cases hregisters : write.registers? id with
      | some isLive => simp
      | none =>
          rw [Option.getD_none, ih]
          constructor
          · rintro ⟨before, hlatest⟩
            exact ⟨before ++ [write], .inr ⟨rfl, before, rfl, hlatest⟩⟩
          · rintro ⟨_, ⟨hnone, _⟩ | ⟨_, before, _, hlatest⟩⟩
            · cases hnone
            · exact ⟨before, hlatest⟩

/-- Stores that began empty follow their history: they are finite maps from ids to records and a
finite set of ids. -/
theorem stores_follow_history (history : List StoreWrite) :
    (empty.afterWrites history).Follows history where
  workflows_keyed := (keyed_afterWrites history).1
  executions_keyed := (keyed_afterWrites history).2
  workflow_iff _ _ := get?_workflows_afterWrites_iff
  execution_iff _ _ := get?_executions_afterWrites_iff
  live_iff _ := ActiveRegistry.mem_ids_iff.trans contains_active_afterWrites_iff
  live_ascending := ActiveRegistry.ascending_ids _
  live_any_order _ hperm := ActiveRegistry.mergeSort_eq_ids hperm
  lists := WorkflowStore.lists_find (keyed_afterWrites history).1
  publish_iff _ _ _ := perform_publish_iff
  move_iff _ _ _ := perform_move_iff
  unchanged _ := perform_eq_self_of_fails
  registers _ _ := perform_registers

end Stores

end FlowGate
