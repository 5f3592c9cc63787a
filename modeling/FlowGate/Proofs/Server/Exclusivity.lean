import FlowGate.Proofs.Server.WorkflowActions

/-!
# Exclusive keys stay exclusive

A server keeps apart which workflows are active and which are registered as live. `Stores.InStep`
says the two agree and that no two active workflows contend for an exclusive key. No request about
a workflow breaks this, whatever it asks for and however it is answered; `inStep_afterAll` says so
of any number of requests, one after the other, and `InStep.answerAction` of the interface.
-/

namespace FlowGate

open ExclusivityRegistry Server

namespace WorkflowStore

variable {store : WorkflowStore} {registry : ExclusivityRegistry} {id : String}
  {workflow : Workflow}

/-- `store.Exclusive registry` says no two active workflows of the store contend. -/
def Exclusive (registry : ExclusivityRegistry) (store : WorkflowStore) : Prop :=
  ∀ id otherId workflow other, store.get? id = some workflow → store.get? otherId = some other →
    id ≠ otherId → workflow.isActive = true → other.isActive = true →
      ¬ workflow.Contends registry other

theorem exclusive_empty (registry : ExclusivityRegistry) : Exclusive registry .empty := by
  intro id otherId workflow other hworkflow
  cases hworkflow

/-- A store stays exclusive when a workflow is stored that is not active or contends with no other
active one. -/
theorem Exclusive.insert (h : store.Exclusive registry)
    (hfree : workflow.isActive = true → ∀ otherId other, store.get? otherId = some other →
      otherId ≠ id → other.isActive = true → ¬ workflow.Contends registry other) :
    Exclusive registry (store.insert id workflow) := by
  intro first second left right hleft hright hne hleftActive hrightActive
  rw [Table.get?_insert] at hleft hright
  -- at most one of the two is the new workflow
  by_cases hfirst : first = id
  · rw [if_pos hfirst] at hleft
    rw [if_neg fun hsecond ↦ hne (hfirst.trans hsecond.symm)] at hright
    cases hleft
    exact hfree hleftActive second right hright (fun hsecond ↦ hne (hfirst.trans hsecond.symm))
      hrightActive
  · rw [if_neg hfirst] at hleft
    by_cases hsecond : second = id
    · rw [if_pos hsecond] at hright
      cases hright
      exact fun hcontends ↦
        hfree hrightActive first left hleft hfirst hleftActive hcontends.symm
    · rw [if_neg hsecond] at hright
      exact h first second left right hleft hright hne hleftActive hrightActive

end WorkflowStore

namespace Stores

/-- `stores.Registers id` says the triggers of the workflow with the id are noted as live. -/
def Registers (stores : Stores) (id : String) : Prop := stores.active.contains id = true

/-- `stores.Activates id` says the workflow with the id is stored and active. -/
def Activates (stores : Stores) (id : String) : Prop :=
  ∃ workflow, stores.workflows.get? id = some workflow ∧ workflow.isActive = true

instance (stores : Stores) (id : String) : Decidable (stores.Registers id) :=
  inferInstanceAs (Decidable (_ = true))

instance (stores : Stores) (id : String) : Decidable (stores.Activates id) :=
  decidable_of_iff _ (Option.any_eq_true Workflow.isActive (stores.workflows.get? id))

/-- What holds between requests of the workflows of a server and its registry. -/
structure InStep (stores : Stores) : Prop where
  /-- Workflows are stored under their own ids. -/
  keyed : stores.workflows.KeyedBy Workflow.id
  /-- The registered workflows are the active ones. -/
  registered : ∀ id, stores.Registers id ↔ stores.Activates id
  /-- No two active workflows contend. -/
  exclusive : stores.workflows.Exclusive defaults

variable {stores : Stores} {id : String}

theorem inStep_empty : Stores.empty.InStep where
  keyed := Table.keyedBy_empty _
  registered id := by
    constructor
    · intro h
      cases h
    · intro hexists
      obtain ⟨workflow, hworkflow, _⟩ := hexists
      cases hworkflow
  exclusive := WorkflowStore.exclusive_empty _

/-- Storing a workflow and registering it exactly if it is active keeps the two in step. -/
theorem InStep.store (h : stores.InStep) {workflow : Workflow} {active : ActiveRegistry}
    (hid : workflow.id = id)
    (hfree : workflow.isActive = true → ∀ otherId other,
      stores.workflows.get? otherId = some other → otherId ≠ id → other.isActive = true →
        ¬ workflow.Contends defaults other)
    (hactive : ∀ name, active.contains name =
      if name = id then workflow.isActive else stores.active.contains name) :
    InStep { stores with workflows := stores.workflows.insert id workflow, active } where
  keyed := h.keyed.insert hid
  registered name := by
    simp only [Registers, Activates, hactive, Table.get?_insert]
    by_cases hname : name = id
    · simp [hname]
    · simp only [if_neg hname]
      exact h.registered name
  exclusive := h.exclusive.insert hfree

/-- One request about a workflow keeps the stores in step. -/
theorem InStep.after (h : stores.InStep) (request : WorkflowRequest) :
    (stores.after request).InStep := by
  have heffect := stores.after_effect request
  generalize stores.after request = next at heffect ⊢
  cases heffect with
  | unchanged => exact h
  | activated workflow version hstored hfree =>
      have hid := h.keyed _ _ hstored
      refine h.store hid (fun _ otherId other hother hne hactive hcontends ↦ ?_) fun name ↦ ?_
      · -- an active workflow is registered, so the check has seen it
        have hregistered := (h.registered otherId).2 ⟨other, hother, hactive⟩
        exact hfree otherId other hother hregistered (hid ▸ hne) hactive hcontends
      · simp only [Table.contains, Table.get?_insert]
        split <;> rfl
  | deactivated workflow hstored =>
      have hid := h.keyed _ _ hstored
      refine h.store hid (fun hactive ↦ by cases hactive) fun name ↦ ?_
      simp only [Table.contains, Table.get?_erase]
      split <;> rfl

/-- So does a request to the interface, whatever its method and its parameters are. -/
theorem InStep.answerAction (h : stores.InStep) (action : WorkflowAction) (arrival : Arrival)
    (request : Http.Request) (parameters : Http.Parameters) :
    ((Server.answerAction action arrival request parameters).run stores).2.InStep := by
  rcases answerAction_stores action arrival request parameters stores with hstores | ⟨id, hstores⟩
  · rwa [hstores]
  · rw [hstores]
    exact h.after _

/-- Any requests about workflows, one after the other, keep the stores in step. -/
theorem inStep_afterAll (h : stores.InStep) (requests : List WorkflowRequest) :
    (stores.afterAll requests).InStep := by
  induction requests generalizing stores with
  | nil => exact h
  | cons request requests ih => exact ih (h.after request)

/-- A workflow whose node consumes the topic `orders` as a member of the group `billing`. -/
def ordersConsumer (id : String) (activation : Activation) : Workflow where
  id := id
  name := "Orders"
  nodes :=
    [⟨"Listen", kafkaTrigger, .one,
      .ofList [("groupId", .string "billing"), ("topic", .string "orders")], false, none⟩]
  pinData := .empty
  activation := activation

/-- An active workflow of an older era and one that is not active, which would contend with it. -/
def twoConsumers : Stores where
  workflows := (WorkflowStore.put .empty (ordersConsumer "1" (.legacy true))).put
    (ordersConsumer "2" (.versioned none))
  executions := .empty
  active := .singleton "1" ()

/-- The second of two workflows that contend can only be activated after the first is deactivated,
and then the first cannot be activated again. -/
theorem twoConsumers_inStep :
    let arrival : Arrival := ⟨0, "", "", "v", 0⟩
    let requests : List WorkflowRequest :=
      [⟨.activate, arrival, "2", []⟩, ⟨.testRun, arrival, "2", []⟩, ⟨.deactivate, arrival, "1", []⟩,
        ⟨.activate, arrival, "2", []⟩, ⟨.activate, arrival, "1", []⟩]
    twoConsumers.InStep ∧ (twoConsumers.afterAll requests).InStep ∧
      (twoConsumers.afterAll requests).active.ids = ["2"] ∧
      (twoConsumers.afterAll (requests.take 2)).active.ids = ["1"] := by
  have hfirst : InStep { Stores.empty with
      workflows := WorkflowStore.put .empty (ordersConsumer "1" (.legacy true))
      active := .singleton "1" () } := by
    have hid : (ordersConsumer "1" (.legacy true)).id = "1" := rfl
    refine inStep_empty.store hid (fun _ otherId other hother ↦ by cases hother) fun name ↦ ?_
    simp only [hid, Table.contains, Table.singleton, Table.get?_insert]
    split <;> rfl
  have hboth : twoConsumers.InStep := by
    have hid : (ordersConsumer "2" (.versioned none)).id = "2" := rfl
    refine hfirst.store hid (fun hactive ↦ by cases hactive) fun name ↦ ?_
    split
    next hname =>
      subst hname
      rfl
    · rfl
  exact ⟨hboth, inStep_afterAll hboth _, by decide, by decide⟩

end Stores

end FlowGate
