import FlowGate.Proofs.Server.ChangeRace

/-!
# Registry and store after concurrent changes

Every request that is carried out changes the stored workflow first and the registry afterwards. Of
concurrent requests the last change of either one counts, and the two need not come from the same
request. `registers_iff_activates_iff` says the registry and the store agree in the end exactly if
these two changes are of the same kind, and that the steps of a request, taken one directly after
the other, are those of its handler.
-/

namespace FlowGate

open Server

namespace ChangeRace

/-- What holds after changes, of which the first one listed is the latest: without any, what held
before. -/
def Settled (changes : List Change) (before : Prop) : Prop :=
  match changes with
  | [] => before
  | latest :: _ => latest = .activate

/-- A change publishes a version exactly if it is an activation. -/
theorem Change.isSome_version_iff {change : Change} {arrival : Arrival} :
    (change.version arrival).isSome = true ↔ change = .activate := by
  cases change <;> simp [Change.version]

/-- After a change the workflow is registered exactly if the change is an activation. -/
theorem Change.registers_note {change : Change} {stores : Stores} {id : String} :
    (change.note stores id).Registers id ↔ change = .activate := by
  cases change with
  | activate =>
      simp [Change.note, Stores.Registers, Stores.register, ActiveRegistry.add, Table.contains,
        Table.get?_insert]
  | deactivate =>
      simp [Change.note, Stores.Registers, Stores.unregister, ActiveRegistry.remove,
        Table.contains, Table.get?_erase]

/-- A workflow that is put in the store is active exactly if it says so. -/
theorem Stores.activates_insert {stores : Stores} {id : String} {workflow : Workflow} :
    Stores.Activates { stores with workflows := stores.workflows.insert id workflow } id ↔
      workflow.isActive = true := by
  simp [Stores.Activates, Table.get?_insert]

/-- The registry is not part of the workflow store. -/
@[simp]
theorem Change.note_workflows (change : Change) (stores : Stores) (id : String) :
    (change.note stores id).workflows = stores.workflows := by
  cases change <;> rfl

/-- What holds while requests about the workflow with an id are under way, starting from some
stores. -/
structure Invariant (id : String) (before : Stores) (race : ChangeRace) : Prop where
  /-- The latest change of the workflow decides whether it is active. -/
  active : race.shared.stores.Activates id ↔
    Settled race.shared.published (before.Activates id)
  /-- The latest change of the registry decides whether the workflow is registered. -/
  registered : race.shared.stores.Registers id ↔
    Settled race.shared.noted (before.Registers id)
  /-- Every change of the workflow has been noted or is about to be. -/
  balanced : race.shared.published.length =
    race.shared.noted.length + race.requesters.countP (·.stage.isNoting)
  /-- Every change of the workflow is one that a request asks for. -/
  publishedAsked : ∀ change ∈ race.shared.published, change ∈ race.requesters.map (·.change)
  /-- So is every change of the registry. -/
  notedAsked : ∀ change ∈ race.shared.noted, change ∈ race.requesters.map (·.change)

variable {id : String} {before : Stores} {race : ChangeRace} {requester : Requester} {index : Nat}

/-- Before the first step the invariant holds of any requests. -/
theorem invariant_start (id : String) (before : Stores) (requests : List (Change × Arrival)) :
    Invariant id before (start before requests) where
  active := .rfl
  registered := .rfl
  balanced := by
    have hnone : (start before requests).requesters.countP (·.stage.isNoting) = 0 := by
      rw [List.countP_eq_zero]
      intro requester hmem
      obtain ⟨request, _, rfl⟩ := List.mem_map.1 hmem
      exact Bool.false_ne_true
    rw [hnone]
    rfl
  publishedAsked _ h := by cases h
  notedAsked _ h := by cases h

/-- The requests keep asking for the same changes. -/
theorem changes_step (id : String) (race : ChangeRace) (index : Nat) :
    (race.step id index).requesters.map (·.change) = race.requesters.map (·.change) := by
  cases hrequester : race.requesters[index]? with
  | none => rw [step_of_none hrequester]
  | some requester =>
      obtain ⟨hlt, rfl⟩ := List.getElem?_eq_some_iff.1 hrequester
      rw [step_of_some hrequester, List.map_set]
      show (race.requesters.map (·.change)).set index race.requesters[index].change = _
      have hself := List.set_getElem_self
        (show index < (race.requesters.map (·.change)).length by simpa using hlt)
      rwa [List.getElem_map] at hself

theorem changes_run (id : String) (race : ChangeRace) (schedule : List Nat) :
    (race.run id schedule).requesters.map (·.change) = race.requesters.map (·.change) := by
  induction schedule generalizing race with
  | nil => rfl
  | cons index schedule ih => exact (ih _).trans (changes_step id race index)

/-- A step of a request changes the number of requests that have something to note by its own
part. -/
theorem countP_step (id : String) (h : race.requesters[index]? = some requester) :
    (race.step id index).requesters.countP (·.stage.isNoting) +
        (if requester.stage.isNoting then 1 else 0) =
      race.requesters.countP (·.stage.isNoting) +
        if (requester.advance id race.shared).1.stage.isNoting then 1 else 0 := by
  obtain ⟨hlt, rfl⟩ := List.getElem?_eq_some_iff.1 h
  rw [step_of_some h, List.countP_set hlt]
  have hpos : race.requesters[index].stage.isNoting = true →
      0 < race.requesters.countP (·.stage.isNoting) := fun hnoting ↦
    List.countP_pos_iff.2 ⟨_, List.getElem_mem hlt, hnoting⟩
  split
  · next hnoting =>
      have := hpos hnoting
      omega
  · omega

/-- The invariant is kept by every step. -/
theorem Invariant.step (h : Invariant id before race) (index : Nat) :
    Invariant id before (race.step id index) := by
  cases hrequester : race.requesters[index]? with
  | none => rwa [step_of_none hrequester]
  | some requester =>
      have hasked : requester.change ∈ race.requesters.map (·.change) :=
        List.mem_map_of_mem (List.mem_of_getElem? hrequester)
      have hcount := countP_step id hrequester
      have hchanges := changes_step id race index
      have hbalanced := h.balanced
      have heffect := requester.advance_effect id race.shared
      rw [step_of_some hrequester] at hcount hchanges ⊢
      generalize requester.advance id race.shared = moved at hcount hchanges heffect ⊢
      obtain ⟨next, shared⟩ := moved
      simp only at hcount hchanges heffect ⊢
      cases heffect with
      | quiet hstage hnext =>
          rw [hstage, hnext] at hcount
          exact
            { active := h.active
              registered := h.registered
              balanced := by rw [hbalanced, ← Nat.add_right_cancel hcount]
              publishedAsked := by rw [hchanges]; exact h.publishedAsked
              notedAsked := by rw [hchanges]; exact h.notedAsked }
      | publishes workflow hstage hnext hstored =>
          rw [hstage, hnext, if_neg Bool.false_ne_true, if_pos rfl] at hcount
          exact
            { active := Stores.activates_insert.trans Change.isSome_version_iff
              registered := h.registered
              balanced := by simp only [List.length_cons]; omega
              publishedAsked := by
                rw [hchanges]
                exact List.forall_mem_cons.2 ⟨hasked, h.publishedAsked⟩
              notedAsked := by rw [hchanges]; exact h.notedAsked }
      | notes hstage hnext =>
          rw [hstage, hnext, if_neg Bool.false_ne_true, if_pos rfl] at hcount
          exact
            { active := by rw [Stores.Activates, Change.note_workflows]; exact h.active
              registered := Change.registers_note
              balanced := by simp only [List.length_cons]; omega
              publishedAsked := by rw [hchanges]; exact h.publishedAsked
              notedAsked := by
                rw [hchanges]
                exact List.forall_mem_cons.2 ⟨hasked, h.notedAsked⟩ }

/-- So it is by any steps, one after the other. -/
theorem Invariant.run (h : Invariant id before race) (schedule : List Nat) :
    Invariant id before (race.run id schedule) := by
  induction schedule generalizing race with
  | nil => exact h
  | cons index schedule ih => exact ih (h.step index)

/-- When all requests are over, as many changes of the registry have been made as changes of the
workflow. -/
theorem Invariant.length_eq_of_isOver (h : Invariant id before race) (hover : race.IsOver) :
    race.shared.published.length = race.shared.noted.length := by
  have hnone : race.requesters.countP (·.stage.isNoting) = 0 := by
    rw [List.countP_eq_zero]
    intro requester hmem
    rw [Stage.isNoting_of_isOver (hover requester hmem)]
    exact Bool.false_ne_true
  rw [h.balanced, hnone, Nat.add_zero]

/-- Two lists of one length are both empty, or each has a first item. -/
theorem nil_or_cons_of_length_eq {α : Type} {left right : List α}
    (h : left.length = right.length) :
    left = [] ∧ right = [] ∨
      ∃ first rest other others, left = first :: rest ∧ right = other :: others := by
  cases left with
  | nil => exact .inl ⟨rfl, List.eq_nil_of_length_eq_zero h.symm⟩
  | cons first rest =>
      cases right with
      | nil => cases h
      | cons other others => exact .inr ⟨first, rest, other, others, rfl, rfl⟩

/-- If as many changes of the one as of the other have been made, the registry and the store are in
step exactly if the latest changes are of the same kind. -/
theorem Invariant.inStep_iff (h : Invariant id before race)
    (hbefore : before.Registers id ↔ before.Activates id)
    (hlength : race.shared.published.length = race.shared.noted.length) :
    (race.shared.stores.Registers id ↔ race.shared.stores.Activates id) ↔
      race.shared.published.head? = race.shared.noted.head? := by
  rw [h.registered, h.active]
  rcases nil_or_cons_of_length_eq hlength with
    ⟨hpublished, hnoted⟩ | ⟨latest, _, latestNoted, _, hpublished, hnoted⟩
  · rw [hpublished, hnoted]
    exact iff_of_true hbefore rfl
  · rw [hpublished, hnoted]
    simp only [Settled, List.head?_cons, Option.some.injEq]
    cases latest <;> cases latestNoted <;> simp

/-- If all requests ask for the same change, the latest changes are of the same kind. -/
theorem Invariant.head?_eq (h : Invariant id before race)
    (hsame : ∀ first ∈ race.requesters.map (·.change),
      ∀ second ∈ race.requesters.map (·.change), first = second)
    (hlength : race.shared.published.length = race.shared.noted.length) :
    race.shared.published.head? = race.shared.noted.head? := by
  rcases nil_or_cons_of_length_eq hlength with
    ⟨hpublished, hnoted⟩ | ⟨latest, _, latestNoted, _, hpublished, hnoted⟩
  · rw [hpublished, hnoted]
  · have hlatest : latest ∈ race.shared.published := hpublished ▸ List.mem_cons_self
    have hlatestNoted : latestNoted ∈ race.shared.noted := hnoted ▸ List.mem_cons_self
    rw [hpublished, hnoted]
    exact congrArg some (hsame latest (h.publishedAsked latest hlatest) latestNoted
      (h.notedAsked latestNoted hlatestNoted))

/-- Concurrent requests for one workflow leave the registry and the store in step exactly if the
latest change of the one is of the same kind as the latest change of the other. So they do if all
requests are of one kind. A request that takes its steps one directly after the other is answered as
its handler answers it, and changes the stores in the same way. -/
theorem registers_iff_activates_iff (id : String) {before : Stores}
    (hbefore : before.Registers id ↔ before.Activates id) (requests : List (Change × Arrival)) :
    let after (schedule : List Nat) := (start before requests).run id schedule
    (∀ schedule, (after schedule).IsOver →
      let shared := (after schedule).shared
      ((shared.stores.Registers id ↔ shared.stores.Activates id) ↔
          shared.published.head? = shared.noted.head?) ∧
        ((∀ first ∈ requests, ∀ second ∈ requests, first.1 = second.1) →
          (shared.stores.Registers id ↔ shared.stores.Activates id))) ∧
      ∀ schedule (index : Nat) (requester : Requester),
        (after schedule).requesters[index]? = some requester → requester.stage = .lookUp →
          let outcome :=
            (requester.change.handler requester.arrival id).outcome (after schedule).shared.stores
          let next := after (schedule ++ List.replicate 5 index)
          next.shared.stores = outcome.2 ∧
            next.requesters = (after schedule).requesters.set index
              { requester with stage := .returned outcome.1 } := by
  intro after
  refine ⟨fun schedule hover ↦ ?_, fun schedule index requester hrequester hstage ↦ ?_⟩
  · have h := (invariant_start id before requests).run schedule
    have hlength := h.length_eq_of_isOver hover
    have hiff := h.inStep_iff hbefore hlength
    refine ⟨hiff, fun hsame ↦ hiff.2 (h.head?_eq ?_ hlength)⟩
    rw [changes_run, start, List.map_map]
    intro first hfirst second hsecond
    obtain ⟨request, hrequest, rfl⟩ := List.mem_map.1 hfirst
    obtain ⟨other, hother, rfl⟩ := List.mem_map.1 hsecond
    exact hsame request hrequest other hother
  · intro outcome next
    have hnext : next = (after schedule).run id (List.replicate 5 index) := run_append ..
    rw [hnext]
    exact run_uninterrupted hrequester hstage

/-- Stores with one workflow, which is neither active nor registered. -/
def idleOrders : Stores :=
  { Stores.empty with workflows := .put .empty (Stores.ordersConsumer "1" (.versioned none)) }

/-- An activation and a deactivation of this workflow, in the order of a schedule. -/
def contest (schedule : List Nat) : ChangeRace :=
  let arrival : Arrival := ⟨0, "", "", "v", 0⟩
  (start idleOrders [(.activate, arrival), (.deactivate, arrival)]).run "1" schedule

/-- An activation and a deactivation that overlap leave the two in step when the one that changes
the workflow last also changes the registry last. -/
theorem overlapping_changes_inStep :
    let race := contest [0, 1, 0, 0, 0, 1, 1]
    race.IsOver ∧ race.shared.published = [.deactivate, .activate] ∧
      (race.shared.stores.Registers "1" ↔ race.shared.stores.Activates "1") := by
  have hover : (contest [0, 1, 0, 0, 0, 1, 1]).IsOver := by decide +kernel
  have hlast : (contest [0, 1, 0, 0, 0, 1, 1]).shared.published.head? =
      (contest [0, 1, 0, 0, 0, 1, 1]).shared.noted.head? := by decide +kernel
  refine ⟨hover, by decide +kernel, ?_⟩
  exact ((registers_iff_activates_iff "1" (by decide) _).1 _ hover).1.2 hlast

/-- A deactivation that withdraws the version before an activation publishes one, and leaves the
registry after the activation has entered it, leaves an active workflow that is not registered. -/
theorem crossed_changes_not_inStep :
    let race := contest [1, 1, 0, 0, 0, 0, 1]
    (idleOrders.Registers "1" ↔ idleOrders.Activates "1") ∧ race.IsOver ∧
      race.shared.stores.Activates "1" ∧ ¬ race.shared.stores.Registers "1" := by
  decide +kernel

end ChangeRace

end FlowGate
