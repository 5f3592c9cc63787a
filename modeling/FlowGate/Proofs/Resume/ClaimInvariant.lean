import FlowGate.Proofs.Resume.Interleaving

/-!
# The claim invariant

`CallRace.Invariant` holds at every moment of a race of calls: what a call holds was made from the
record that its execution had at the start, at most one call has claimed an execution, the stored
record of a claimed execution is the one that this call wrote last, and the record of any other is
the one from the start. `Caller.advance_effect` says what one step can do to the store,
`Invariant.step` and `Invariant.run` that the invariant survives a step and a schedule.
-/

namespace FlowGate

namespace CallRace

variable {webhooks : NodeWebhooks} {signer : UrlSigner} {initial store after : ExecutionStore}
  {race : CallRace} {caller next : Caller} {index : Nat} {id : String}

/-- `race.HasClaimed index id` says the call at a position has claimed an execution. -/
def HasClaimed (race : CallRace) (index : Nat) (id : String) : Prop :=
  ∃ caller, race.callers[index]? = some caller ∧ caller.call.executionId = id ∧
    caller.stage.hasClaimed = true

/-- What a call holds fits the record that its execution had at the start, and once it has claimed
the execution the stored record is the one it wrote last. -/
def Caller.Consistent (webhooks : NodeWebhooks) (signer : UrlSigner)
    (initial store : ExecutionStore) (caller : Caller) : Prop :=
  match caller.stage with
  | .lookUp | .returned (.error _) => True
  | .claim resumption => ∃ execution,
      initial.get? caller.call.executionId = some execution ∧
        resumption.IsFor webhooks signer caller.call execution
  | .storeRunning resumption => ∃ execution,
      initial.get? caller.call.executionId = some execution ∧
        resumption.IsFor webhooks signer caller.call execution ∧
        store.get? caller.call.executionId = some { execution with status := .running }
  | .respond resumption | .storeCompleted resumption _ => ∃ execution,
      initial.get? caller.call.executionId = some execution ∧
        resumption.IsFor webhooks signer caller.call execution ∧
        store.get? caller.call.executionId = some (resumption.running caller.now)
  | .returned (.ok _) => ∃ (execution : Execution) (resumption : Resumption),
      initial.get? caller.call.executionId = some execution ∧
        resumption.IsFor webhooks signer caller.call execution ∧
        store.get? caller.call.executionId = some (resumption.completed caller.now)

namespace Caller.Consistent

/-- A claimed execution is running or completed. -/
theorem stored (h : caller.Consistent webhooks signer initial store)
    (hclaimed : caller.stage.hasClaimed = true) :
    ∃ record, store.get? caller.call.executionId = some record ∧
      (record.status = .running ∨ record.status = .success) := by
  obtain ⟨call, now, stage⟩ := caller
  cases stage with
  | lookUp | claim => cases hclaimed
  | storeRunning | respond | storeCompleted =>
      obtain ⟨_, _, _, hstored⟩ := h
      exact ⟨_, hstored, .inl rfl⟩
  | returned result =>
      cases result with
      | error => cases hclaimed
      | ok =>
          obtain ⟨_, _, _, _, hstored⟩ := h
          exact ⟨_, hstored, .inr rfl⟩

/-- A call does not depend on records that it has not claimed. -/
theorem frame (h : caller.Consistent webhooks signer initial store)
    (hsame : caller.stage.hasClaimed = true →
      after.get? caller.call.executionId = store.get? caller.call.executionId) :
    caller.Consistent webhooks signer initial after := by
  obtain ⟨call, now, stage⟩ := caller
  cases stage with
  | lookUp => trivial
  | claim => exact h
  | storeRunning | respond | storeCompleted =>
      obtain ⟨execution, hinitial, hfor, hstored⟩ := h
      exact ⟨execution, hinitial, hfor, (hsame rfl).trans hstored⟩
  | returned result =>
      cases result with
      | error => trivial
      | ok =>
          obtain ⟨execution, resumption, hinitial, hfor, hstored⟩ := h
          exact ⟨execution, resumption, hinitial, hfor, (hsame rfl).trans hstored⟩

end Caller.Consistent

/-- What one step of a call can do to the store. -/
inductive Caller.Effect (caller next : Caller) (store after : ExecutionStore) : Prop where
  /-- Nothing is stored. -/
  | quiet (hstore : after = store)
      (hclaimed : next.stage.hasClaimed = caller.stage.hasClaimed)
  /-- The waiting execution is claimed. -/
  | claim (before : Execution)
      (hbefore : store.get? caller.call.executionId = some before)
      (hwaiting : before.status = .waiting) (hunfinished : before.finished = false)
      (hstore : after = store.insert caller.call.executionId { before with status := .running })
      (hclaimed : next.stage.hasClaimed = true)
  /-- The claimed execution, which is running, is replaced. -/
  | replace (before record : Execution)
      (hbefore : store.get? caller.call.executionId = some before)
      (hrunning : before.status = .running) (hunfinished : before.finished = false)
      (hrecord : record.status = .running ∧ record.finished = false ∨
        record.status = .success ∧ record.finished = true)
      (hstore : after = store.insert caller.call.executionId record)
      (howner : caller.stage.hasClaimed = true) (hclaimed : next.stage.hasClaimed = true)

/-- A step changes at most the record of the call's execution, and only if the call has then
claimed it. -/
theorem Caller.Effect.get?_eq (h : caller.Effect next store after)
    (hid : next.stage.hasClaimed = true → id ≠ caller.call.executionId) :
    after.get? id = store.get? id := by
  cases h with
  | quiet hstore => rw [hstore]
  | claim _ _ _ _ hstore hclaimed => rw [hstore, Table.get?_insert, if_neg (hid hclaimed)]
  | replace _ _ _ _ _ _ hstore _ hclaimed =>
      rw [hstore, Table.get?_insert, if_neg (hid hclaimed)]

/-- One step keeps a call consistent, provided that every waiting record is still the one from the
start. -/
theorem Caller.advance_effect (hkeyed : initial.KeyedBy Execution.id)
    (hwaiting : ∀ record, store.get? caller.call.executionId = some record →
      record.status = .waiting → initial.get? caller.call.executionId = some record)
    (h : caller.Consistent webhooks signer initial store) :
    (caller.advance webhooks signer store).1.Consistent webhooks signer initial
        (caller.advance webhooks signer store).2 ∧
      caller.Effect (caller.advance webhooks signer store).1 store
        (caller.advance webhooks signer store).2 := by
  obtain ⟨call, now, stage⟩ := caller
  cases stage with
  | lookUp =>
      simp only [advance, Stage.advance]
      cases hresolve : resolveCall webhooks signer call (.ok (store.get? call.executionId)) with
      | error error => exact ⟨trivial, .quiet rfl rfl⟩
      | ok resumption =>
          obtain ⟨execution, hfound, hfor⟩ := resolveCall_eq_ok_iff.1 hresolve
          have hstored := Except.ok.inj hfound
          have hstatus := (Execution.ensureResumable_eq_ok_iff.1 hfor.resumable).1
          exact ⟨⟨execution, hwaiting execution hstored hstatus, hfor⟩, .quiet rfl rfl⟩
  | claim resumption =>
      obtain ⟨execution, hinitial, hfor⟩ := h
      have hid : resumption.execution.id = call.executionId :=
        hfor.id_eq.trans (hkeyed _ _ hinitial)
      simp only [advance, Stage.advance, hid]
      cases hclaim : Engine.claim store call.executionId with
      | error error => exact ⟨trivial, .quiet rfl rfl⟩
      | ok claimed =>
          obtain ⟨before, hbefore, hstatus, hfinished, rfl⟩ := Engine.claim_eq_ok_iff.1 hclaim
          -- the stored record is waiting, so the copy was made of this very record
          have hsame : execution = before :=
            Option.some.inj (hinitial.symm.trans (hwaiting before hbefore hstatus))
          subst hsame
          refine ⟨⟨execution, hinitial, hfor, ?_⟩,
            .claim execution hbefore hstatus hfinished rfl rfl⟩
          rw [Table.get?_insert, if_pos rfl]
  | storeRunning resumption =>
      obtain ⟨execution, hinitial, hfor, hstored⟩ := h
      have hid : (resumption.running now).id = call.executionId :=
        hfor.id_eq.trans (hkeyed _ _ hinitial)
      have hunfinished : execution.finished = false :=
        (Execution.ensureResumable_eq_ok_iff.1 hfor.resumable).2.1
      refine ⟨⟨execution, hinitial, hfor, ?_⟩,
        .replace _ (resumption.running now) hstored rfl hunfinished
          (.inl ⟨rfl, hfor.unfinished⟩) ?_ rfl rfl⟩
      · rw [advance, Stage.advance, ExecutionStore.get?_put, hid, if_pos rfl]
      · rw [← hid]
        rfl
  | respond resumption => exact ⟨h, .quiet rfl rfl⟩
  | storeCompleted resumption answer =>
      obtain ⟨execution, hinitial, hfor, hstored⟩ := h
      have hid : (resumption.completed now).id = call.executionId :=
        hfor.id_eq.trans (hkeyed _ _ hinitial)
      refine ⟨⟨execution, resumption, hinitial, hfor, ?_⟩,
        .replace _ (resumption.completed now) hstored rfl hfor.unfinished
          (.inr ⟨rfl, rfl⟩) ?_ rfl rfl⟩
      · rw [advance, Stage.advance, ExecutionStore.get?_put, hid, if_pos rfl]
      · rw [← hid]
        rfl
  | returned result => exact ⟨h, .quiet rfl rfl⟩

/-- After a step of one call every other call has claimed what it had claimed before. -/
theorem hasClaimed_step_iff (hcaller : race.callers[index]? = some caller) {other : Nat} :
    (race.step webhooks signer index).HasClaimed other id ↔
      if other = index then
        caller.call.executionId = id ∧
          (caller.advance webhooks signer race.store).1.stage.hasClaimed = true
      else race.HasClaimed other id := by
  rw [HasClaimed]
  split
  · next heq =>
      rw [heq, getElem?_step_self hcaller]
      constructor
      · intro hexists
        obtain ⟨_, hnext, hid, hclaimed⟩ := hexists
        cases hnext
        exact ⟨hid, hclaimed⟩
      · intro hboth
        obtain ⟨hid, hclaimed⟩ := hboth
        exact ⟨_, rfl, hid, hclaimed⟩
  · next hne =>
      rw [getElem?_step_ne hne]
      rfl

/-- A claim is never given up. -/
theorem HasClaimed.step (h : race.HasClaimed index id) (other : Nat) :
    (race.step webhooks signer other).HasClaimed index id := by
  cases hother : race.callers[other]? with
  | none => rwa [step_of_none hother]
  | some caller =>
      rw [hasClaimed_step_iff hother]
      split
      · next heq =>
          obtain ⟨claimer, hclaimer, hid, hclaimed⟩ := h
          rw [heq, hother] at hclaimer
          cases hclaimer
          exact ⟨hid, Stage.hasClaimed_advance hclaimed⟩
      · exact h

theorem HasClaimed.run (h : race.HasClaimed index id) (schedule : List Nat) :
    (race.run webhooks signer schedule).HasClaimed index id := by
  induction schedule generalizing race with
  | nil => exact h
  | cons other schedule ih => exact ih (h.step other)

/-- What holds at every moment of a race that began on the store `initial`. -/
structure Invariant (webhooks : NodeWebhooks) (signer : UrlSigner) (initial : ExecutionStore)
    (race : CallRace) : Prop where
  consistent : ∀ (index : Nat) (caller : Caller), race.callers[index]? = some caller →
    caller.Consistent webhooks signer initial race.store
  unique : ∀ first second id, race.HasClaimed first id → race.HasClaimed second id →
    first = second
  unclaimed : ∀ id, (∀ index, ¬ race.HasClaimed index id) →
    race.store.get? id = initial.get? id

theorem invariant_start (initial : ExecutionStore) (calls : List (WebhookCall × Int64)) :
    Invariant webhooks signer initial (start initial calls) := by
  have hlookUp : ∀ (index : Nat) (caller : Caller),
      (start initial calls).callers[index]? = some caller → caller.stage = .lookUp := by
    intro index caller h
    rw [start, List.getElem?_map, Option.map_eq_some_iff] at h
    obtain ⟨_, _, rfl⟩ := h
    rfl
  refine ⟨?_, ?_, fun id _ ↦ rfl⟩
  · intro index caller h
    rw [Caller.Consistent, hlookUp index caller h]
    trivial
  · rintro first second id ⟨caller, h, _, hclaimed⟩ _
    rw [hlookUp first caller h] at hclaimed
    cases hclaimed

namespace Invariant

/-- A claimed execution is stored as running or completed. -/
theorem stored (h : Invariant webhooks signer initial race) (hclaimed : race.HasClaimed index id) :
    ∃ record, race.store.get? id = some record ∧
      (record.status = .running ∨ record.status = .success) := by
  obtain ⟨caller, hcaller, rfl, hstage⟩ := hclaimed
  exact (h.consistent index caller hcaller).stored hstage

/-- Nobody has claimed an execution that is stored as waiting. -/
theorem not_hasClaimed_of_waiting (h : Invariant webhooks signer initial race)
    {record : Execution} (hstored : race.store.get? id = some record)
    (hwaiting : record.status = .waiting) (index : Nat) : ¬ race.HasClaimed index id := by
  intro hclaimed
  obtain ⟨other, hother, hstatus⟩ := h.stored hclaimed
  rw [hstored] at hother
  cases hother
  rcases hstatus with hstatus | hstatus <;> simp [hwaiting] at hstatus

/-- A waiting record is still the one from the start. -/
theorem initial_of_waiting (h : Invariant webhooks signer initial race) {record : Execution}
    (hstored : race.store.get? id = some record) (hwaiting : record.status = .waiting) :
    initial.get? id = some record := by
  rw [← h.unclaimed id (h.not_hasClaimed_of_waiting hstored hwaiting)]
  exact hstored

/-- An execution that was stored at the start is stored for ever. -/
theorem exists_stored (h : Invariant webhooks signer initial race) {execution : Execution}
    (hinitial : initial.get? id = some execution) :
    ∃ record, race.store.get? id = some record := by
  by_cases hclaimed : ∃ index, race.HasClaimed index id
  · obtain ⟨index, hclaimed⟩ := hclaimed
    obtain ⟨record, hstored, _⟩ := h.stored hclaimed
    exact ⟨record, hstored⟩
  · rw [h.unclaimed id fun index hindex ↦ hclaimed ⟨index, hindex⟩]
    exact ⟨execution, hinitial⟩

/-- What the next step of a call does to a race. -/
theorem effect (h : Invariant webhooks signer initial race) (hkeyed : initial.KeyedBy Execution.id)
    (hcaller : race.callers[index]? = some caller) :
    (caller.advance webhooks signer race.store).1.Consistent webhooks signer initial
        (caller.advance webhooks signer race.store).2 ∧
      caller.Effect (caller.advance webhooks signer race.store).1 race.store
        (caller.advance webhooks signer race.store).2 :=
  Caller.advance_effect hkeyed (fun _ ↦ h.initial_of_waiting) (h.consistent index caller hcaller)

/-- When a call has claimed its execution after a step, no other call has claimed it. -/
theorem not_hasClaimed_other (h : Invariant webhooks signer initial race)
    (hcaller : race.callers[index]? = some caller) (heffect : caller.Effect next race.store after)
    (hnext : next.stage.hasClaimed = true) {other : Nat} (hne : other ≠ index) :
    ¬ race.HasClaimed other caller.call.executionId := by
  intro hother
  cases heffect with
  | quiet _ hclaimed =>
      -- the claim is older than this step
      exact hne (h.unique other index _ hother ⟨caller, hcaller, rfl, hclaimed.symm.trans hnext⟩)
  | claim before hbefore hwaiting =>
      exact h.not_hasClaimed_of_waiting hbefore hwaiting other hother
  | replace _ _ _ _ _ _ _ howner =>
      exact hne (h.unique other index _ hother ⟨caller, hcaller, rfl, howner⟩)

/-- The invariant survives a step of any call. -/
theorem step (h : Invariant webhooks signer initial race) (hkeyed : initial.KeyedBy Execution.id)
    (index : Nat) : Invariant webhooks signer initial (race.step webhooks signer index) := by
  cases hcaller : race.callers[index]? with
  | none => rwa [step_of_none hcaller]
  | some caller =>
      obtain ⟨hconsistent, heffect⟩ := h.effect hkeyed hcaller
      have hother := h.not_hasClaimed_other hcaller heffect
      refine ⟨?_, ?_, ?_⟩
      · -- the call that took the step, then the calls that did not
        intro other found hfound
        by_cases heq : other = index
        · rw [heq, getElem?_step_self hcaller] at hfound
          cases hfound
          rwa [step_of_some hcaller]
        · rw [getElem?_step_ne heq] at hfound
          rw [step_of_some hcaller]
          refine (h.consistent other found hfound).frame fun hclaimed ↦ heffect.get?_eq ?_
          intro hnext hid
          exact hother hnext heq ⟨found, hfound, hid, hclaimed⟩
      · -- a new claim meets no earlier one
        intro first second id hfirst hsecond
        rw [hasClaimed_step_iff hcaller] at hfirst hsecond
        split at hfirst <;> split at hsecond
        · next hleft hright => rw [hleft, hright]
        · next hne =>
            obtain ⟨rfl, hnext⟩ := hfirst
            exact absurd hsecond (hother hnext hne)
        · next hne _ =>
            obtain ⟨rfl, hnext⟩ := hsecond
            exact absurd hfirst (hother hnext hne)
        · exact h.unique first second id hfirst hsecond
      · -- a step that changes a record claims it
        intro id hnone
        rw [← h.unclaimed id fun other hclaimed ↦ hnone other (hclaimed.step index),
          step_of_some hcaller]
        refine heffect.get?_eq fun hnext hid ↦ hnone index ?_
        rw [hasClaimed_step_iff hcaller, if_pos rfl]
        exact ⟨hid.symm, hnext⟩

theorem run (h : Invariant webhooks signer initial race) (hkeyed : initial.KeyedBy Execution.id)
    (schedule : List Nat) :
    Invariant webhooks signer initial (race.run webhooks signer schedule) := by
  induction schedule generalizing race with
  | nil => exact h
  | cons index schedule ih => exact ih (h.step hkeyed index)

end Invariant

end CallRace

end FlowGate
