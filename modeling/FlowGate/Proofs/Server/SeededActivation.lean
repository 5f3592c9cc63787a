import FlowGate.Proofs.Server.Exclusivity

/-!
# Activation after a seed

The check before an activation compares a workflow with the registered ones. A seed names its
workflows and the live ids independently of each other, so it may leave an active workflow
unregistered. `Stores.Overlooks` says this of a workflow, and `overlooks_afterAll_iff` that requests
never bring it about and that the first one that is carried out for the workflow ends it.
`activation_accepted_iff` draws the consequence: an activation is accepted exactly when every active
workflow that contends with it is one that the seed has overlooked and no request has touched since.
-/

namespace FlowGate

open ExclusivityRegistry Server

namespace Seed

/-- The workflow that a seed leaves under an id: that of the last record with the id. -/
def workflow? (seed : Seed) (id : String) : Option Workflow :=
  (seed.workflows.filter (·.id = id)).getLast?.map .ofSnapshot

/-- `seed.Overlooks id` says the seed has an active workflow with the id and does not list the id as
live. -/
def Overlooks (seed : Seed) (id : String) : Prop :=
  (∃ workflow, seed.workflow? id = some workflow ∧ workflow.isActive = true) ∧ id ∉ seed.active

end Seed

/-- Of the records that are stored one after the other the last one with an id counts. -/
theorem WorkflowStore.get?_foldl_put (store : WorkflowStore) (snapshots : List Snapshot)
    (id : String) :
    (snapshots.foldl (fun store snapshot ↦ WorkflowStore.put store (.ofSnapshot snapshot))
        store).get? id =
      ((snapshots.filter (·.id = id)).getLast?.map Workflow.ofSnapshot).or (store.get? id) := by
  induction snapshots generalizing store with
  | nil => rfl
  | cons snapshot rest ih =>
      have hid : (Workflow.ofSnapshot snapshot).id = snapshot.id := rfl
      rw [List.foldl_cons, ih, WorkflowStore.get?_put, hid, List.filter_cons]
      by_cases heq : snapshot.id = id
      · simp only [heq, decide_true, if_true, List.getLast?_cons]
        cases (rest.filter (·.id = id)).getLast? <;> rfl
      · simp only [heq, decide_false, Bool.false_eq_true, if_false, Ne.symm heq]

/-- The registered ids are those that were added. -/
theorem ActiveRegistry.contains_foldl_add (registry : ActiveRegistry) (ids : List String)
    (id : String) :
    (ids.foldl (fun registry id ↦ (ActiveRegistry.add registry id).2) registry).contains id = true ↔
      id ∈ ids ∨ registry.contains id = true := by
  induction ids generalizing registry with
  | nil => simp
  | cons first rest ih =>
      have hadd : Table.contains (ActiveRegistry.add registry first).2 id = true ↔
          id = first ∨ registry.contains id = true := by
        simp only [ActiveRegistry.add, Table.contains, Table.get?_insert]
        split <;> simp [*]
      rw [List.foldl_cons, ih, hadd, List.mem_cons, ← or_assoc, or_comm (a := id ∈ rest)]

namespace Stores

variable {stores : Stores} {request : WorkflowRequest} {id : String} {workflow : Workflow}

/-- `stores.Overlooks id` says the workflow with the id is active but not registered. -/
def Overlooks (stores : Stores) (id : String) : Prop :=
  stores.Activates id ∧ ¬ stores.Registers id

/-- After a seed was loaded the overlooked workflows are those that the seed overlooks. -/
theorem overlooks_load_iff {seed : Seed} : (empty.load seed).Overlooks id ↔ seed.Overlooks id := by
  have hworkflow : (empty.load seed).workflows.get? id = seed.workflow? id := by
    rw [load, WorkflowStore.get?_foldl_put]
    exact Option.or_none
  have hactive : (empty.load seed).active.contains id = true ↔ id ∈ seed.active := by
    rw [load, ActiveRegistry.contains_foldl_add]
    exact or_iff_left Bool.false_ne_true
  rw [Overlooks, Seed.Overlooks, Activates, Registers, hworkflow, hactive]

/-- `stores.Performs request` says the request activates or deactivates a workflow of these stores:
it is neither a test run nor refused. -/
def Performs (stores : Stores) (request : WorkflowRequest) : Prop :=
  request.action ≠ .testRun ∧ ∃ envelope,
    ((request.action.run request.arrival request.id request.body).outcome stores).1 = .ok envelope

/-- A request that is not performed changes nothing. -/
theorem after_of_not_performs (h : ¬ stores.Performs request) : stores.after request = stores := by
  obtain ⟨action, arrival, id, body⟩ := request
  rw [after]
  by_cases haction : action = .testRun
  · subst haction
    exact observes_testRun arrival id body stores
  rcases hrun : (action.run arrival id body).outcome stores with ⟨failure | envelope, next⟩
  · exact WorkflowAction.stores_eq_of_error hrun
  · exact absurd ⟨haction, envelope, congrArg Prod.fst hrun⟩ h

/-- A workflow is not overlooked after a request about it was performed: an activation registers it,
and a deactivation withdraws its version. -/
theorem Performs.not_overlooks (h : stores.Performs request) :
    ¬ (stores.after request).Overlooks request.id := by
  obtain ⟨action, arrival, id, body⟩ := request
  obtain ⟨hne, envelope, hok⟩ := h
  rw [after]
  cases action with
  | activate =>
      simp only [WorkflowAction.run, outcome_activate] at hok ⊢
      split at hok
      · cases hok
      split at hok
      · cases hok
      · rintro ⟨_, hregisters⟩
        refine hregisters ?_
        simp [Registers, Table.contains, Table.get?_insert]
  | deactivate =>
      simp only [WorkflowAction.run, outcome_deactivate] at hok ⊢
      split at hok
      · cases hok
      · rintro ⟨⟨workflow, hworkflow, hactive⟩, _⟩
        rw [Table.get?_insert, if_pos rfl] at hworkflow
        cases hworkflow
        cases hactive
  | testRun => exact absurd rfl hne

/-- A request about another workflow makes no difference. -/
theorem overlooks_after_of_ne (h : request.id ≠ id) :
    (stores.after request).Overlooks id ↔ stores.Overlooks id := by
  have heffect := stores.after_effect request
  generalize stores.after request = next at heffect ⊢
  cases heffect with
  | unchanged => rfl
  | activated workflow version hstored hfree =>
      simp [Overlooks, Activates, Registers, Table.contains, Table.get?_insert, h.symm]
  | deactivated workflow hstored =>
      simp [Overlooks, Activates, Registers, Table.contains, Table.get?_insert, Table.get?_erase,
        h.symm]

/-- A request leaves a workflow overlooked unless it is about that workflow and is performed, and
makes no workflow overlooked. -/
theorem overlooks_after_iff :
    (stores.after request).Overlooks id ↔
      stores.Overlooks id ∧ (request.id = id → ¬ stores.Performs request) := by
  by_cases hid : request.id = id
  · subst hid
    constructor
    · intro hoverlooks
      have hrefused : ¬ stores.Performs request := fun hperforms ↦
        hperforms.not_overlooks hoverlooks
      rw [after_of_not_performs hrefused] at hoverlooks
      exact ⟨hoverlooks, fun _ ↦ hrefused⟩
    · rintro ⟨hoverlooks, hrefused⟩
      rwa [after_of_not_performs (hrefused rfl)]
  · rw [overlooks_after_of_ne hid]
    exact (and_iff_left fun heq ↦ absurd heq hid).symm

/-- `stores.Spares id requests` says none of the requests, made one after the other, is performed
for the workflow with the id. -/
def Spares (stores : Stores) (id : String) (requests : List WorkflowRequest) : Prop :=
  ∀ earlier request later, requests = earlier ++ request :: later → request.id = id →
    ¬ (stores.afterAll earlier).Performs request

theorem spares_cons_iff {requests : List WorkflowRequest} :
    stores.Spares id (request :: requests) ↔
      (request.id = id → ¬ stores.Performs request) ∧
        (stores.after request).Spares id requests := by
  constructor
  · intro h
    refine ⟨h [] request requests rfl, fun earlier other later hrequests ↦ ?_⟩
    exact h (request :: earlier) other later (congrArg (request :: ·) hrequests)
  · rintro ⟨hfirst, hrest⟩ earlier other later hrequests
    cases earlier with
    | nil =>
        cases hrequests
        exact hfirst
    | cons first earlier =>
        cases hrequests
        exact hrest earlier other later rfl

/-- Exactly those workflows are overlooked after any requests that were so before and for which no
request was performed. -/
theorem overlooks_afterAll_iff {requests : List WorkflowRequest} :
    (stores.afterAll requests).Overlooks id ↔ stores.Overlooks id ∧ stores.Spares id requests := by
  induction requests generalizing stores with
  | nil =>
      refine (and_iff_left fun earlier request later hrequests ↦ ?_).symm
      cases earlier <;> cases hrequests
  | cons request requests ih =>
      show ((stores.after request).afterAll requests).Overlooks id ↔ _
      rw [ih, overlooks_after_iff, spares_cons_iff, and_assoc]

/-- Requests about workflows keep every workflow under its own id. -/
theorem keyed_afterAll (h : stores.workflows.KeyedBy Workflow.id)
    (requests : List WorkflowRequest) :
    (stores.afterAll requests).workflows.KeyedBy Workflow.id := by
  induction requests generalizing stores with
  | nil => exact h
  | cons request requests ih =>
      refine ih ?_
      have heffect := stores.after_effect request
      generalize stores.after request = next at heffect ⊢
      cases heffect with
      | unchanged => exact h
      | activated workflow version hstored hfree => exact h.insert (h _ workflow hstored)
      | deactivated workflow hstored => exact h.insert (h _ workflow hstored)

/-- The check before an activation succeeds exactly when no other registered and active workflow
contends. -/
theorem validateActivation_eq_ok_iff :
    ((triggers.validateActivation workflow).run stores).1 = .ok () ↔
      ∀ name other, stores.workflows.get? name = some other → stores.Registers name →
        name ≠ workflow.id → other.isActive = true → ¬ workflow.Contends defaults other := by
  rw [run_validateActivation, ensureNoConflict_find_eq_ok_iff]
  refine forall₃_congr fun name other _ ↦ ?_
  simp only [WorkflowFilter.accepts, WorkflowFilter.byIds, Registers, ← ActiveRegistry.mem_ids_iff]
  simp

/-- After a seed and any requests a stored workflow passes the check before its activation exactly
when every other active workflow that contends with it is one that the seed has left unregistered
and for which no request was performed since. -/
theorem activation_accepted_iff (seed : Seed) (requests : List WorkflowRequest)
    (hstored : ((empty.load seed).afterAll requests).workflows.get? id = some workflow) :
    ((triggers.validateActivation workflow).run ((empty.load seed).afterAll requests)).1 = .ok () ↔
      ∀ rival other, ((empty.load seed).afterAll requests).workflows.get? rival = some other →
        rival ≠ id → other.isActive = true → workflow.Contends defaults other →
          seed.Overlooks rival ∧ (empty.load seed).Spares rival requests := by
  have hkeyed : (empty.load seed).workflows.KeyedBy Workflow.id :=
    (keyed_load seed (Table.keyedBy_empty _) (Table.keyedBy_empty _)).1
  have hid : workflow.id = id := keyed_afterAll hkeyed requests _ _ hstored
  rw [validateActivation_eq_ok_iff, hid]
  refine forall₃_congr fun rival other hother ↦ ?_
  rw [← overlooks_load_iff, ← overlooks_afterAll_iff]
  constructor
  · intro hfree hne hactive hcontends
    exact ⟨⟨other, hother, hactive⟩, fun hregisters ↦ hfree hregisters hne hactive hcontends⟩
  · intro hoverlooked hregisters hne hactive hcontends
    exact (hoverlooked hne hactive hcontends).2 hregisters

/-- A seed with two workflows that contend. The first one is active, but no id is listed as live. -/
def unlistedConsumer : Seed where
  workflows :=
    [(ordersConsumer "1" (.versioned (some "v1"))).toSnapshot,
      (ordersConsumer "2" (.versioned none)).toSnapshot]
  executions := []
  active := []

/-- Two consumers of one topic in one group contend. -/
theorem ordersConsumer_contends (id other : String) (activation otherActivation : Activation) :
    (ordersConsumer id activation).Contends defaults (ordersConsumer other otherActivation) := by
  have hclaims (name : String) (activation : Activation) :
      (ordersConsumer name activation).Claims defaults kafkaTrigger
        ⟨[("groupId", "billing"), ("topic", "orders")]⟩ :=
    ⟨_, List.mem_singleton_self _, rfl, rfl, by decide⟩
  exact ⟨_, _, hclaims id activation, hclaims other otherActivation⟩

/-- The second workflow of the seed may be activated although the first one is active and contends
with it. -/
theorem unlistedConsumer_accepts_rival :
    let stores := empty.load unlistedConsumer
    ∃ first second, stores.workflows.get? "1" = some first ∧
      stores.workflows.get? "2" = some second ∧ first.isActive = true ∧
      second.Contends defaults first ∧
      ((triggers.validateActivation second).run stores).1 = .ok () := by
  refine ⟨ordersConsumer "1" (.versioned (some "v1")), ordersConsumer "2" (.versioned none), rfl,
    rfl, rfl, ordersConsumer_contends _ _ _ _, rfl⟩

/-- It may not once the first one has been activated again. -/
theorem unlistedConsumer_refuses_after_activation :
    let requests : List WorkflowRequest := [⟨.activate, ⟨0, "", "", "v2", 0⟩, "1", []⟩]
    let stores := (empty.load unlistedConsumer).afterAll requests
    ∃ second, stores.workflows.get? "2" = some second ∧
      ((triggers.validateActivation second).run stores).1 ≠ .ok () := by
  intro requests stores
  have hsecond : stores.workflows.get? "2" = some (ordersConsumer "2" (.versioned none)) := rfl
  refine ⟨_, hsecond, fun haccepted ↦ ?_⟩
  have hrivals := (activation_accepted_iff unlistedConsumer requests hsecond).1 haccepted
  have hspares := (hrivals "1" (ordersConsumer "1" (.versioned (some "v2"))) rfl (by decide) rfl
    (ordersConsumer_contends _ _ _ _)).2
  exact hspares [] _ [] rfl rfl ⟨by decide, _, rfl⟩

end Stores

end FlowGate
