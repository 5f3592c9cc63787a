import FlowGate.Proofs.Trigger.FirstConflict

/-!
# The checks of triggers over given answers

The two checks see the stores only through their answers. `StoreAnswers` holds the answers that the
stores give, and `StoreAnswers.check` is the check over them; it keeps a list of what it asked the
workflow store. `activation_outcome` lists how the check before an activation may end, and
`manualRun_eq_judgement` says what the check before a manual run does with the nodes it considers.
-/

namespace FlowGate

/-- What the workflow store and the registry of live workflows answer. -/
structure StoreAnswers where
  /-- The answer to each search of the workflow store. -/
  found : WorkflowFilter → Except RepositoryError (List WorkflowSummary)
  /-- The ids of the live workflows. -/
  listed : Except RepositoryError (List String)

/-- The filter for the workflows with the listed ids but that of the workflow itself. -/
def Workflow.othersAmong (workflow : Workflow) (ids : List String) : WorkflowFilter :=
  .byIds (ids.filter (· ≠ workflow.id))

theorem Workflow.accepts_othersAmong {workflow : Workflow} {ids : List String} {id : String}
    {isActive : Bool} :
    (workflow.othersAmong ids).accepts id isActive = true ↔ id ∈ ids ∧ id ≠ workflow.id := by
  simp [othersAmong, WorkflowFilter.accepts, WorkflowFilter.byIds]

namespace StoreAnswers

/-- The answers of a workflow store that does not fail, beside a list of live workflows. -/
def ofStore (store : WorkflowStore) (ids : List String) : StoreAnswers where
  found filter := .ok (store.find filter)
  listed := .ok ids

/-- The check over given answers. Its state is the list of the searches so far. -/
def check (answers : StoreAnswers) (registry : ExclusivityRegistry) :
    TriggerValidation (StateM (List WorkflowFilter)) where
  registry := registry
  find filter := do
    modify (· ++ [filter])
    return answers.found filter
  listActive := return answers.listed

/-- The result of the check before an activation, and the searches that were made for it. -/
def activation (answers : StoreAnswers) (registry : ExclusivityRegistry) (workflow : Workflow) :
    Except TriggerError Unit × List WorkflowFilter :=
  ((answers.check registry).validateActivation workflow).run []

/-- The result of the check before a manual run. -/
def manualRun (answers : StoreAnswers) (registry : ExclusivityRegistry) (workflow : Workflow)
    (isActive : Bool) (trigger : Option String) : Except TriggerError Unit :=
  (((answers.check registry).validateManualRun workflow isActive trigger).run []).1

/-- A comparison makes one search. A failed search is reported as it is; what was found is searched
for a conflict. -/
theorem run_compareWith (answers : StoreAnswers) (registry : ExclusivityRegistry)
    (nodes : List Node) (filter : WorkflowFilter) :
    ((answers.check registry).compareWith nodes filter).run [] =
      match answers.found filter with
      | .error error => (.error (.repository error), [filter])
      | .ok others => (registry.ensureNoConflict nodes others, [filter]) := by
  have hfind : (answers.check registry).find filter =
      (modify (· ++ [filter]) >>= fun _ ↦ pure (answers.found filter)) := rfl
  unfold TriggerValidation.compareWith
  rw [hfind, bind_assoc]
  simp only [pure_bind]
  cases answers.found filter <;> rfl

/-- How the check before an activation may end: with nothing to compare (`idle`), with a failed list
of live workflows (`unlisted`), with no other live workflow (`alone`), with a failed search for the
others (`unanswered`), or with the comparison with those that were found (`compared`). -/
inductive ActivationOutcome (answers : StoreAnswers) (registry : ExclusivityRegistry)
    (workflow : Workflow) : Except TriggerError Unit × List WorkflowFilter → Prop where
  | idle (hnone : ∀ node ∈ workflow.nodes, ¬ node.MayClaim registry workflow.pinData) :
      ActivationOutcome answers registry workflow (.ok (), [])
  | unlisted (error : RepositoryError)
      (hsome : ∃ node ∈ workflow.nodes, node.MayClaim registry workflow.pinData)
      (hlisted : answers.listed = .error error) :
      ActivationOutcome answers registry workflow (.error (.repository error), [])
  | alone (ids : List String)
      (hsome : ∃ node ∈ workflow.nodes, node.MayClaim registry workflow.pinData)
      (hlisted : answers.listed = .ok ids) (hids : ∀ id ∈ ids, id = workflow.id) :
      ActivationOutcome answers registry workflow (.ok (), [])
  | unanswered (ids : List String) (error : RepositoryError)
      (hsome : ∃ node ∈ workflow.nodes, node.MayClaim registry workflow.pinData)
      (hlisted : answers.listed = .ok ids) (hids : ∃ id ∈ ids, id ≠ workflow.id)
      (hfound : answers.found (workflow.othersAmong ids) = .error error) :
      ActivationOutcome answers registry workflow
        (.error (.repository error), [workflow.othersAmong ids])
  | compared (ids : List String) (others : List WorkflowSummary)
      (hsome : ∃ node ∈ workflow.nodes, node.MayClaim registry workflow.pinData)
      (hlisted : answers.listed = .ok ids) (hids : ∃ id ∈ ids, id ≠ workflow.id)
      (hfound : answers.found (workflow.othersAmong ids) = .ok others) :
      ActivationOutcome answers registry workflow
        (registry.ensureNoConflict (registry.claimants workflow none) others,
          [workflow.othersAmong ids])

/-- The check before an activation ends in one of these ways. -/
theorem activation_outcome (answers : StoreAnswers) (registry : ExclusivityRegistry)
    (workflow : Workflow) :
    ActivationOutcome answers registry workflow (answers.activation registry workflow) := by
  have hregistry : (answers.check registry).registry = registry := rfl
  have hlist : (answers.check registry).listActive = pure answers.listed := rfl
  unfold activation TriggerValidation.validateActivation
  simp only [hregistry, hlist, pure_bind]
  by_cases hempty : (registry.claimants workflow none).isEmpty = true
  · rw [if_pos hempty]
    exact .idle (ExclusivityRegistry.isEmpty_claimants_iff.1 hempty)
  have hsome : ∃ node ∈ workflow.nodes, node.MayClaim registry workflow.pinData := by
    have hnot := mt ExclusivityRegistry.isEmpty_claimants_iff.2 hempty
    simpa only [Classical.not_forall, Classical.not_not, exists_prop] using hnot
  rw [if_neg hempty]
  cases hlisted : answers.listed with
  | error error => exact .unlisted error hsome hlisted
  | ok ids =>
      simp only
      by_cases hothers : (ids.filter (· ≠ workflow.id)).isEmpty = true
      · rw [if_pos hothers]
        refine .alone ids hsome hlisted ?_
        simpa [List.filter_eq_nil_iff] using hothers
      have hids : ∃ id ∈ ids, id ≠ workflow.id := by
        simpa [List.filter_eq_nil_iff] using hothers
      rw [if_neg hothers]
      show ActivationOutcome answers registry workflow
        (((answers.check registry).compareWith _ (workflow.othersAmong ids)).run [])
      rw [run_compareWith]
      cases hfound : answers.found (workflow.othersAmong ids) with
      | error error => exact .unanswered ids error hsome hlisted hids hfound
      | ok others => exact .compared ids others hsome hlisted hids hfound

/-- What the check before a manual run says of the nodes that it considers. A node of an active
workflow is refused at once; those of an inactive one are compared with the other active
workflows. -/
def judgement (answers : StoreAnswers) (registry : ExclusivityRegistry) (workflow : Workflow)
    (isActive : Bool) : List Node → Except TriggerError Unit
  | [] => .ok ()
  | node :: rest =>
      if isActive then .error (.singleTrigger node.name node.type)
      else
        match answers.found (.activeExcluding workflow.id) with
        | .error error => .error (.repository error)
        | .ok others => registry.ensureNoConflict (node :: rest) others

/-- The check before a manual run judges the nodes that may claim a key, or those of one name. -/
theorem manualRun_eq_judgement (answers : StoreAnswers) (registry : ExclusivityRegistry)
    (workflow : Workflow) (isActive : Bool) (trigger : Option String) :
    answers.manualRun registry workflow isActive trigger =
      answers.judgement registry workflow isActive (registry.claimants workflow trigger) := by
  have hregistry : (answers.check registry).registry = registry := rfl
  unfold manualRun TriggerValidation.validateManualRun
  simp only [hregistry]
  cases registry.claimants workflow trigger with
  | nil => rfl
  | cons node rest =>
      cases isActive with
      | true => rfl
      | false =>
          show (((answers.check registry).compareWith _ _).run []).1 = _
          rw [run_compareWith, judgement]
          cases answers.found (.activeExcluding workflow.id) <;> rfl

end StoreAnswers

end FlowGate
