import FlowGate.Proofs.Resume.ClaimInvariant
import FlowGate.Proofs.Resume.RunIndex

/-!
# At most one resumption

However the steps of concurrent calls interleave, an execution is resumed at most once.
`ResumesAtMostOnce` lists what this means for the calls, for the stored records on the way and for
the records at the end; `resumes_at_most_once` proves it for every store, all calls and every
schedule.
-/

namespace FlowGate

namespace CallRace

/-- What one step of a race can do to the record of an execution. -/
inductive RecordStep : Option Execution → Option Execution → Prop where
  | unchanged (record : Option Execution) : RecordStep record record
  /-- A waiting record is claimed; nothing but its status changes. -/
  | claimed (before : Execution) (hwaiting : before.status = .waiting)
      (hunfinished : before.finished = false) :
      RecordStep (some before) (some { before with status := .running })
  /-- A running record is replaced by a running one. -/
  | running (before after : Execution) (hbefore : before.status = .running)
      (hunfinished : before.finished = false) (hafter : after.status = .running)
      (hopen : after.finished = false) : RecordStep (some before) (some after)
  /-- A running record is replaced by a completed one. -/
  | completed (before after : Execution) (hbefore : before.status = .running)
      (hunfinished : before.finished = false) (hafter : after.status = .success)
      (hfinished : after.finished = true) : RecordStep (some before) (some after)

/-- What holds of a race of calls on a store, where `after schedule` is the race after the steps of
a schedule. -/
structure ResumesAtMostOnce (webhooks : NodeWebhooks) (signer : UrlSigner)
    (initial : ExecutionStore) (calls : List (WebhookCall × Int64))
    (after : List Nat → CallRace) : Prop where
  /-- The calls under way are the given ones. -/
  calls_kept : ∀ schedule,
    (after schedule).callers.map (fun caller ↦ (caller.call, caller.now)) = calls
  /-- A schedule that gives a call five steps brings it to its end. -/
  ends : ∀ schedule (index : Nat) (caller : Caller), 5 ≤ schedule.count index →
    (after schedule).callers[index]? = some caller → ∃ result, caller.stage = .returned result
  /-- At most one call ever claims an execution. -/
  single_claim : ∀ earlier later first second id,
    (after earlier).HasClaimed first id → (after (earlier ++ later)).HasClaimed second id →
      first = second
  /-- At most one call on an execution is ever answered with success. -/
  single_success : ∀ earlier later (first second : Nat) (caller other : Caller) answer
    otherAnswer,
    (after earlier).callers[first]? = some caller → caller.stage = .returned (.ok answer) →
      (after (earlier ++ later)).callers[second]? = some other →
      other.stage = .returned (.ok otherAnswer) →
      caller.call.executionId = other.call.executionId → first = second
  /-- A status moves from waiting to running and from running to success only. -/
  moves : ∀ schedule index id,
    RecordStep ((after schedule).store.get? id) ((after (schedule ++ [index])).store.get? id)
  /-- A record that is completed or finished is never changed again. -/
  final : ∀ earlier later id record, (after earlier).store.get? id = some record →
    record.status = .success ∨ record.finished = true →
      (after (earlier ++ later)).store.get? id = some record
  /-- A call that came as far as claiming its execution fails with a conflict only. -/
  loser_conflict : ∀ earlier later (index : Nat) (caller other : Caller) resumption error,
    (after earlier).callers[index]? = some caller → caller.stage = .claim resumption →
      (after (earlier ++ later)).callers[index]? = some other →
      other.stage = .returned (.error error) →
      error = .conflict s!"The execution \"{caller.call.executionId}\" is running already."
  /-- No step of a call that does not claim its execution changes the store. -/
  loser_silent : ∀ earlier later index (caller : Caller),
    (after (earlier ++ index :: later)).callers[index]? = some caller →
      caller.stage.hasClaimed = false → (after (earlier ++ [index])).store = (after earlier).store
  /-- A call that is answered with success has resumed the record that the execution had at the
  start, once: the record is the prepared one with one more run, which holds this call. -/
  resumed : ∀ schedule (index : Nat) (caller : Caller) answer,
    (after schedule).callers[index]? = some caller → caller.stage = .returned (.ok answer) →
      ∃ execution node record, initial.get? caller.call.executionId = some execution ∧
        execution.lastNode? = some node ∧
        (after schedule).store.get? caller.call.executionId = some record ∧
        execution.ResumedBy node caller.call caller.now record
  /-- When all calls are over, an execution on which no call succeeded has the record that it had
  at the start. -/
  untouched : ∀ schedule id,
    (∀ caller ∈ (after schedule).callers, ∃ result, caller.stage = .returned result) →
      (∀ caller ∈ (after schedule).callers, caller.call.executionId = id →
        ∀ answer, caller.stage ≠ .returned (.ok answer)) →
      (after schedule).store.get? id = initial.get? id
  /-- A call that takes its steps one directly after the other is answered as the service with the
  bundled engine answers it, and changes the store in the same way. -/
  uninterrupted : ∀ schedule (index : Nat) (caller : Caller) (routePrefix : String),
    (after schedule).callers[index]? = some caller → caller.stage = .lookUp →
      after (schedule ++ List.replicate 5 index) =
        let (result, store) :=
          ((WaitingWebhooks.bundled webhooks signer routePrefix caller.now).execute
            caller.call).run (after schedule).store
        ⟨store, (after schedule).callers.set index { caller with stage := .returned result }⟩

variable {webhooks : NodeWebhooks} {signer : UrlSigner} {initial : ExecutionStore}
  {race : CallRace} {caller : Caller} {index : Nat} {id : String}

/-- A step keeps the calls themselves. -/
theorem calls_step (webhooks : NodeWebhooks) (signer : UrlSigner) (race : CallRace) (index : Nat) :
    (race.step webhooks signer index).callers.map (fun caller ↦ (caller.call, caller.now)) =
      race.callers.map fun caller ↦ (caller.call, caller.now) := by
  cases hcaller : race.callers[index]? with
  | none => rw [step_of_none hcaller]
  | some caller =>
      obtain ⟨hlt, rfl⟩ := List.getElem?_eq_some_iff.1 hcaller
      rw [step_of_some hcaller, List.map_set]
      show (race.callers.map fun caller ↦ (caller.call, caller.now)).set index
        (race.callers[index].call, race.callers[index].now) = _
      have hself := List.set_getElem_self
        (show index < (race.callers.map fun caller ↦ (caller.call, caller.now)).length by
          simpa using hlt)
      rwa [List.getElem_map] at hself

theorem calls_run (webhooks : NodeWebhooks) (signer : UrlSigner) (race : CallRace)
    (schedule : List Nat) :
    (race.run webhooks signer schedule).callers.map (fun caller ↦ (caller.call, caller.now)) =
      race.callers.map fun caller ↦ (caller.call, caller.now) := by
  induction schedule generalizing race with
  | nil => rfl
  | cons index schedule ih => exact (ih _).trans (calls_step webhooks signer race index)

/-- A step changes records as `RecordStep` allows. -/
theorem Invariant.recordStep (h : Invariant webhooks signer initial race)
    (hkeyed : initial.KeyedBy Execution.id) (index : Nat) (id : String) :
    RecordStep (race.store.get? id) ((race.step webhooks signer index).store.get? id) := by
  cases hcaller : race.callers[index]? with
  | none =>
      rw [step_of_none hcaller]
      exact .unchanged _
  | some caller =>
      rw [step_of_some hcaller]
      by_cases hid : id = caller.call.executionId
      · subst hid
        cases (h.effect hkeyed hcaller).2 with
        | quiet hstore =>
            rw [hstore]
            exact .unchanged _
        | claim before hbefore hwaiting hunfinished hstore =>
            rw [hstore, hbefore, Table.get?_insert, if_pos rfl]
            exact .claimed before hwaiting hunfinished
        | replace before record hbefore hrunning hunfinished hrecord hstore =>
            rw [hstore, hbefore, Table.get?_insert, if_pos rfl]
            rcases hrecord with ⟨hstatus, hfinished⟩ | ⟨hstatus, hfinished⟩
            · exact .running before record hrunning hunfinished hstatus hfinished
            · exact .completed before record hrunning hunfinished hstatus hfinished
      · rw [(h.effect hkeyed hcaller).2.get?_eq fun _ ↦ hid]
        exact .unchanged _

/-- A record that is completed or finished stays as it is in a step. -/
theorem RecordStep.eq_of_final {before : Execution} {after : Option Execution}
    (h : RecordStep (some before) after)
    (hfinal : before.status = .success ∨ before.finished = true) : after = some before := by
  cases h with
  | unchanged => rfl
  | claimed _ hwaiting hunfinished => simp [hwaiting, hunfinished] at hfinal
  | running _ _ hbefore hunfinished => simp [hbefore, hunfinished] at hfinal
  | completed _ _ hbefore hunfinished => simp [hbefore, hunfinished] at hfinal

/-- How a call stands that came as far as claiming its execution: it still has to, it has, or it was
refused because another call had. -/
def Caller.InDispute (caller : Caller) : Prop :=
  (∃ resumption, caller.stage = .claim resumption) ∨ caller.stage.hasClaimed = true ∨
    caller.stage = .returned (.error (.conflict
      s!"The execution \"{caller.call.executionId}\" is running already."))

/-- The step of a call leaves it in dispute. -/
theorem Caller.InDispute.advance (hdispute : caller.InDispute)
    (hkeyed : initial.KeyedBy Execution.id) (h : Invariant webhooks signer initial race)
    (hcaller : race.callers[index]? = some caller) :
    (caller.advance webhooks signer race.store).1.InDispute := by
  rcases hdispute with ⟨resumption, hstage⟩ | hclaimed | hrefused
  · have hconsistent := h.consistent index caller hcaller
    rw [Caller.Consistent, hstage] at hconsistent
    obtain ⟨execution, hinitial, hfor⟩ := hconsistent
    have hid : resumption.execution.id = caller.call.executionId :=
      hfor.id_eq.trans (hkeyed _ _ hinitial)
    obtain ⟨record, hstored⟩ := h.exists_stored hinitial
    simp only [InDispute, Caller.advance, hstage, Stage.advance, hid]
    cases hclaim : Engine.claim race.store caller.call.executionId with
    | ok claimed => exact .inr (.inl rfl)
    | error error =>
        rw [Engine.eq_conflict_of_claim hstored hclaim]
        exact .inr (.inr rfl)
  · exact .inr (.inl (Stage.hasClaimed_advance hclaimed))
  · refine .inr (.inr ?_)
    simp only [Caller.advance, hrefused, Stage.advance]

/-- A call in dispute is in dispute after any schedule. -/
theorem InDispute.run (h : Invariant webhooks signer initial race)
    (hkeyed : initial.KeyedBy Execution.id) (hcaller : race.callers[index]? = some caller)
    (hdispute : caller.InDispute) (schedule : List Nat) :
    ∃ other, (race.run webhooks signer schedule).callers[index]? = some other ∧
      other.call = caller.call ∧ other.InDispute := by
  induction schedule generalizing race caller with
  | nil => exact ⟨caller, hcaller, rfl, hdispute⟩
  | cons moved schedule ih =>
      rw [run_cons]
      by_cases heq : index = moved
      · subst heq
        have hrest := ih (h.step hkeyed index) (getElem?_step_self hcaller)
          (hdispute.advance hkeyed h hcaller)
        exact hrest
      · exact ih (h.step hkeyed moved) ((getElem?_step_ne heq).trans hcaller) hdispute

/-- A record that is completed or finished stays as it is. -/
theorem Invariant.final (h : Invariant webhooks signer initial race)
    (hkeyed : initial.KeyedBy Execution.id) {record : Execution}
    (hstored : race.store.get? id = some record)
    (hfinal : record.status = .success ∨ record.finished = true) (schedule : List Nat) :
    (race.run webhooks signer schedule).store.get? id = some record := by
  induction schedule generalizing race with
  | nil => exact hstored
  | cons index schedule ih =>
      have hstep := h.recordStep hkeyed index id
      rw [hstored] at hstep
      exact ih (h.step hkeyed index) (hstep.eq_of_final hfinal)

/-- The step of a call that has not claimed its execution afterwards stores nothing. -/
theorem Invariant.store_step (h : Invariant webhooks signer initial race)
    (hkeyed : initial.KeyedBy Execution.id) (hcaller : race.callers[index]? = some caller)
    (hunclaimed : ¬ (race.step webhooks signer index).HasClaimed index caller.call.executionId) :
    (race.step webhooks signer index).store = race.store := by
  rw [hasClaimed_step_iff hcaller, if_pos rfl] at hunclaimed
  rw [step_of_some hcaller]
  cases (h.effect hkeyed hcaller).2 with
  | quiet hstore => exact hstore
  | claim _ _ _ _ _ hclaimed => exact absurd ⟨rfl, hclaimed⟩ hunclaimed
  | replace _ _ _ _ _ _ _ _ hclaimed => exact absurd ⟨rfl, hclaimed⟩ hunclaimed

/-- Calls that race on a store of executions under their own ids resume each of them at most
once. -/
theorem resumes_at_most_once (webhooks : NodeWebhooks) (signer : UrlSigner)
    {initial : ExecutionStore} (hkeyed : initial.KeyedBy Execution.id)
    (calls : List (WebhookCall × Int64)) :
    ResumesAtMostOnce webhooks signer initial calls
      fun schedule ↦ (start initial calls).run webhooks signer schedule := by
  have hinvariant (schedule : List Nat) : Invariant webhooks signer initial
      ((start initial calls).run webhooks signer schedule) :=
    (invariant_start initial calls).run hkeyed schedule
  have hpersist {earlier later : List Nat} {index : Nat} {id : String}
      (h : ((start initial calls).run webhooks signer earlier).HasClaimed index id) :
      ((start initial calls).run webhooks signer (earlier ++ later)).HasClaimed index id := by
    rw [run_append]
    exact h.run later
  constructor
  case calls_kept =>
    intro schedule
    rw [calls_run, start, List.map_map]
    exact List.map_id' calls
  case ends =>
    intro schedule index caller hcount hcaller
    obtain ⟨hlt, _⟩ := List.getElem?_eq_some_iff.1 hcaller
    have hlength := congrArg List.length
      (calls_run webhooks signer (start initial calls) schedule)
    simp only [List.length_map] at hlength
    obtain ⟨other, hother, hle⟩ := stepsLeft_run webhooks signer
      (List.getElem?_eq_getElem (hlength ▸ hlt)) schedule
    rw [hcaller] at hother
    cases hother
    refine Stage.returned_of_stepsLeft ?_
    -- five steps are left at the start, and the schedule gives the call as many
    have hstage : (start initial calls).callers[index].stage.stepsLeft = 5 := by
      simp [start, Stage.stepsLeft]
    omega
  case single_claim =>
    intro earlier later first second id hfirst hsecond
    exact (hinvariant _).unique first second id (hpersist hfirst) hsecond
  case single_success =>
    intro earlier later first second caller other answer otherAnswer hcaller hstage hother
      hotherStage hid
    -- an answered call has claimed its execution, so both calls have claimed the same one
    have hfirst : ((start initial calls).run webhooks signer earlier).HasClaimed first
        caller.call.executionId := ⟨caller, hcaller, rfl, by rw [hstage]; rfl⟩
    exact (hinvariant _).unique first second _ (hpersist hfirst)
      ⟨other, hother, hid.symm, by rw [hotherStage]; rfl⟩
  case moves =>
    intro schedule index id
    rw [run_append]
    exact (hinvariant schedule).recordStep hkeyed index id
  case final =>
    intro earlier later id record hstored hfinal
    rw [run_append]
    exact (hinvariant earlier).final hkeyed hstored hfinal later
  case loser_conflict =>
    intro earlier later index caller other resumption error hcaller hstage hother hreturned
    obtain ⟨found, hfound, hcall, hdispute⟩ :=
      InDispute.run (hinvariant earlier) hkeyed hcaller (.inl ⟨resumption, hstage⟩) later
    rw [run_append, hfound] at hother
    cases hother
    rw [Caller.InDispute, hreturned, hcall] at hdispute
    rcases hdispute with ⟨_, hclaim⟩ | hclaimed | hrefused
    · cases hclaim
    · cases hclaimed
    · cases hrefused
      rfl
  case loser_silent =>
    intro earlier later index caller hcaller hclaimed
    rw [run_append]
    cases hfound : ((start initial calls).run webhooks signer earlier).callers[index]? with
    | none => exact congrArg CallRace.store (step_of_none hfound)
    | some found =>
        -- a claim made in this step would still be there at the end
        refine (hinvariant earlier).store_step hkeyed hfound fun hstep ↦ ?_
        rw [List.append_cons] at hcaller
        have hlater : ((start initial calls).run webhooks signer
            ((earlier ++ [index]) ++ later)).HasClaimed index found.call.executionId := by
          refine hpersist ?_
          rwa [run_append]
        obtain ⟨other, hother, _, hotherClaimed⟩ := hlater
        rw [hcaller] at hother
        cases hother
        rw [hclaimed] at hotherClaimed
        cases hotherClaimed
  case resumed =>
    intro schedule index caller answer hcaller hstage
    have hconsistent := (hinvariant schedule).consistent index caller hcaller
    rw [Caller.Consistent, hstage] at hconsistent
    obtain ⟨execution, resumption, hinitial, hfor, hstored⟩ := hconsistent
    have hwaiting := (Execution.ensureResumable_eq_ok_iff.1 hfor.resumable).1
    refine ⟨execution, resumption.node, _, hinitial, hfor.node, hstored, ?_⟩
    rw [hfor.completed_eq]
    exact Execution.resumedBy_resumedOnce hwaiting resumption.node caller.call caller.now
  case untouched =>
    intro schedule id hover hnone
    -- a call that is over and has claimed its execution was answered with success
    refine (hinvariant schedule).unclaimed id ?_
    intro index hexists
    obtain ⟨caller, hcaller, hid, hclaimed⟩ := hexists
    have hmem := List.mem_of_getElem? hcaller
    obtain ⟨result, hstage⟩ := hover caller hmem
    cases result with
    | ok answer => exact hnone caller hmem hid answer hstage
    | error error =>
        rw [hstage] at hclaimed
        cases hclaimed
  case uninterrupted =>
    intro schedule index caller routePrefix hcaller hstage
    rw [run_append]
    exact run_uninterrupted hcaller hstage

/-- Two calls on one waiting execution: the first to claim it wins, whatever comes after, and its
request is the one that is recorded. -/
theorem two_calls_resume_once :
    let webhooks : NodeWebhooks := fun _ node ↦ [⟨.get, "", node.name, true⟩]
    let signer : UrlSigner := ⟨(· ++ "!"), fun _ _ ↦ false⟩
    let initial := ExecutionStore.put .empty (.waitingIn "1" (.plain "wait" "pause"))
    let late := { WebhookCall.plain .get "1" with
      headers := .singleton "host" "flow", query := .singleton "turn" "2", body := .bool true }
    let calls : List (WebhookCall × Int64) := [(.plain .get "1", 10), (late, 20)]
    let race := (start initial calls).run webhooks signer [0, 1, 1, 0, 1, 1, 1]
    initial.KeyedBy Execution.id ∧
      ResumesAtMostOnce webhooks signer initial calls
        (fun schedule ↦ (start initial calls).run webhooks signer schedule) ∧
      race.callers.map (·.stage.hasClaimed) = [false, true] ∧
      ∃ record run, race.store.get? "1" = some record ∧ record.runsOf "wait" = [run] ∧
        run.startTime = 20 ∧ run.data.map Value.json =
          some (.object [("main", .array [.array [.object [("json", .object [
            ("body", .bool true), ("headers", .object [("host", .string "flow")]),
            ("query", .object [("turn", .string "2")])])]]])]) := by
  have hkeyed : (ExecutionStore.put .empty
      (.waitingIn "1" (.plain "wait" "pause"))).KeyedBy Execution.id :=
    ExecutionStore.keyed_put (Table.keyedBy_empty _) _
  exact ⟨hkeyed, resumes_at_most_once _ _ hkeyed _, by decide, _, _, rfl, rfl, rfl, rfl⟩

end CallRace

end FlowGate
