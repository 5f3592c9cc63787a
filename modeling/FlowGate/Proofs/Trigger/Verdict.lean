import FlowGate.Proofs.Trigger.Answers

/-!
# The verdict on an activation

`ActivationVerdict` says when the check before an activation searches the workflow store, when it
fails, and when and with whom it reports a conflict. `activation_decided` says this holds for every
registry, every workflow and all answers of the stores.
-/

namespace FlowGate

open ExclusivityRegistry

/-- There is a first conflict exactly if some node is contested. -/
theorem Workflow.exists_firstConflict_iff {registry : ExclusivityRegistry} {workflow : Workflow}
    {others : List WorkflowSummary} :
    (∃ conflict, workflow.FirstConflict registry others conflict) ↔
      ∃ node ∈ workflow.nodes, node.Contested registry workflow.pinData others := by
  simp only [← findSome?_claimants_eq_some_iff, ← Option.isSome_iff_exists]
  rw [Option.isSome_iff_ne_none, ne_eq, findSome?_claimants_eq_none_iff]
  simp only [Classical.not_forall, Classical.not_not, exists_prop]

namespace StoreAnswers

/-- What the check of a workflow before its activation comes to: its result, and the searches that
it makes in the workflow store. -/
structure ActivationVerdict (answers : StoreAnswers) (registry : ExclusivityRegistry)
    (workflow : Workflow) (result : Except TriggerError Unit) (searches : List WorkflowFilter) :
    Prop where
  /-- There is at most one search. -/
  searches_le : searches.length ≤ 1
  /-- There is one exactly if some node may claim a key and another workflow is listed as live. -/
  searched_iff : searches ≠ [] ↔
    (∃ node ∈ workflow.nodes, node.MayClaim registry workflow.pinData) ∧
      ∃ ids, answers.listed = .ok ids ∧ ∃ id ∈ ids, id ≠ workflow.id
  /-- It is for all of the other workflows that are listed. -/
  search_eq : ∀ filter ∈ searches, ∃ ids, answers.listed = .ok ids ∧
    filter = workflow.othersAmong ids
  /-- The check fails exactly if a lookup fails that is made. -/
  failed_iff : ∀ error, result = .error (.repository error) ↔
    (∃ node ∈ workflow.nodes, node.MayClaim registry workflow.pinData) ∧
        answers.listed = .error error ∨
      ∃ filter ∈ searches, answers.found filter = .error error
  /-- It reports a conflict exactly if a node of the workflow is contested by one of the workflows
  that were found. -/
  refused_iff : (∃ conflict, result = .error (.parameterConflict conflict)) ↔
    ∃ filter ∈ searches, ∃ others, answers.found filter = .ok others ∧
      ∃ node ∈ workflow.nodes, node.Contested registry workflow.pinData others
  /-- The conflict is that of the first contested node with the first holder of its key. -/
  conflict_iff : ∀ conflict, result = .error (.parameterConflict conflict) ↔
    ∃ filter ∈ searches, ∃ others, answers.found filter = .ok others ∧
      workflow.FirstConflict registry others conflict
  /-- Nothing else is reported. -/
  error_cases : ∀ error, result = .error error →
    (∃ failure, error = .repository failure) ∨ ∃ conflict, error = .parameterConflict conflict

variable {answers : StoreAnswers} {registry : ExclusivityRegistry} {workflow : Workflow}
  {result : Except TriggerError Unit} {searches : List WorkflowFilter}

/-- A conflict is reported exactly if a node is contested, if the conflict that is reported is
always the first one. -/
theorem exists_conflict_iff
    (hconflict : ∀ conflict, result = .error (.parameterConflict conflict) ↔
      ∃ filter ∈ searches, ∃ others, answers.found filter = .ok others ∧
        workflow.FirstConflict registry others conflict) :
    (∃ conflict, result = .error (.parameterConflict conflict)) ↔
      ∃ filter ∈ searches, ∃ others, answers.found filter = .ok others ∧
        ∃ node ∈ workflow.nodes, node.Contested registry workflow.pinData others := by
  simp only [hconflict, ← Workflow.exists_firstConflict_iff]
  constructor
  · intro hexists
    obtain ⟨conflict, filter, hfilter, others, hfound, hfirst⟩ := hexists
    exact ⟨filter, hfilter, others, hfound, conflict, hfirst⟩
  · intro hexists
    obtain ⟨filter, hfilter, others, hfound, conflict, hfirst⟩ := hexists
    exact ⟨conflict, filter, hfilter, others, hfound, hfirst⟩

/-- The verdict when nothing is searched for: the check passes, or the failed list of live workflows
is reported. -/
theorem verdict_of_no_search
    (hsearched : ¬ ((∃ node ∈ workflow.nodes, node.MayClaim registry workflow.pinData) ∧
      ∃ ids, answers.listed = .ok ids ∧ ∃ id ∈ ids, id ≠ workflow.id))
    (hresult : ∀ error, result = .error error ↔
      (∃ node ∈ workflow.nodes, node.MayClaim registry workflow.pinData) ∧
        ∃ failure, answers.listed = .error failure ∧ error = .repository failure) :
    ActivationVerdict answers registry workflow result [] where
  searches_le := Nat.zero_le 1
  searched_iff := iff_of_false (fun h ↦ h rfl) hsearched
  search_eq filter hfilter := by cases hfilter
  failed_iff error := by simp [hresult]
  refused_iff := by simp [hresult]
  conflict_iff conflict := by simp [hresult]
  error_cases error herror := by
    obtain ⟨_, failure, _, hfailure⟩ := (hresult error).1 herror
    exact .inl ⟨failure, hfailure⟩

/-- The verdict when the other live workflows are searched for: a failed search is reported, and
else the first conflict with those that were found. -/
theorem verdict_of_search {ids : List String}
    (hsome : ∃ node ∈ workflow.nodes, node.MayClaim registry workflow.pinData)
    (hlisted : answers.listed = .ok ids) (hids : ∃ id ∈ ids, id ≠ workflow.id)
    (hresult : ∀ error, result = .error error ↔
      (∃ failure, answers.found (workflow.othersAmong ids) = .error failure ∧
          error = .repository failure) ∨
        ∃ others conflict, answers.found (workflow.othersAmong ids) = .ok others ∧
          workflow.FirstConflict registry others conflict ∧ error = .parameterConflict conflict) :
    ActivationVerdict answers registry workflow result [workflow.othersAmong ids] := by
  have hconflict : ∀ conflict, result = .error (.parameterConflict conflict) ↔
      ∃ filter ∈ [workflow.othersAmong ids], ∃ others, answers.found filter = .ok others ∧
        workflow.FirstConflict registry others conflict := by
    intro conflict
    simp [hresult]
  exact {
    searches_le := Nat.le_refl 1
    searched_iff := iff_of_true (List.cons_ne_nil _ _) ⟨hsome, ids, hlisted, hids⟩
    search_eq := fun filter hfilter ↦ ⟨ids, hlisted, List.mem_singleton.1 hfilter⟩
    failed_iff := fun error ↦ by simp [hresult, hlisted]
    refused_iff := exists_conflict_iff hconflict
    conflict_iff := hconflict
    error_cases := fun error herror ↦ by
      rcases (hresult error).1 herror with ⟨failure, _, hfailure⟩ | ⟨_, conflict, _, _, hconflict⟩
      · exact .inl ⟨failure, hfailure⟩
      · exact .inr ⟨conflict, hconflict⟩ }

/-- However the check ends, it has come to its verdict. -/
theorem ActivationOutcome.verdict
    (h : ActivationOutcome answers registry workflow (result, searches)) :
    ActivationVerdict answers registry workflow result searches := by
  cases h with
  | idle hnone =>
      have hidle : ¬ ∃ node ∈ workflow.nodes, node.MayClaim registry workflow.pinData :=
        fun ⟨node, hnode, hclaim⟩ ↦ hnone node hnode hclaim
      exact verdict_of_no_search (fun h ↦ hidle h.1) fun error ↦ by simp [hidle]
  | unlisted error hsome hlisted =>
      refine verdict_of_no_search ?_ fun other ↦ ?_
      · simp [hlisted]
      · simp [hlisted, hsome, eq_comm]
  | alone ids hsome hlisted hids =>
      refine verdict_of_no_search ?_ fun other ↦ ?_
      · intro hboth
        obtain ⟨_, listed, hother, id, hid, hne⟩ := hboth
        cases hlisted.symm.trans hother
        exact hne (hids id hid)
      · simp [hlisted]
  | unanswered ids error hsome hlisted hids hfound =>
      refine verdict_of_search hsome hlisted hids fun other ↦ ?_
      simp [hfound, eq_comm]
  | compared ids others hsome hlisted hids hfound =>
      refine verdict_of_search hsome hlisted hids fun other ↦ ?_
      simp [hfound, ensureNoConflict_eq_error_iff, and_comm]

/-- The check before an activation comes to its verdict. -/
theorem activation_decided (answers : StoreAnswers) (registry : ExclusivityRegistry)
    (workflow : Workflow) :
    answers.ActivationVerdict registry workflow (answers.activation registry workflow).1
      (answers.activation registry workflow).2 :=
  (answers.activation_outcome registry workflow).verdict

end StoreAnswers

end FlowGate
