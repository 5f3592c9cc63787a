import FlowGate.Proofs.Trigger.Answers

/-!
# Manual runs from one trigger

The check before a manual run may be narrowed to the nodes of one name. `manualRun_narrows` says the
check of the whole workflow passes exactly if the one for every name does, and that it reports what
the check for the name in the report would report.
-/

namespace FlowGate

/-- The node that an error names; a store that fails names none. -/
def TriggerError.nodeName? : TriggerError → Option String
  | .singleTrigger nodeName _ => some nodeName
  | .parameterConflict conflict => some conflict.nodeName
  | .repository _ => none

namespace ExclusivityRegistry

variable {registry : ExclusivityRegistry} {nodes : List Node} {others : List WorkflowSummary}
  {node : Node} {error : TriggerError}

/-- The nodes of one name that are considered are those among all that are considered. -/
theorem claimants_some (registry : ExclusivityRegistry) (workflow : Workflow) (name : String) :
    registry.claimants workflow (some name) =
      (registry.claimants workflow none).filter (·.name = name) := by
  rw [claimants, claimants, List.filter_filter]
  refine List.filter_congr fun node _ ↦ ?_
  simp [Bool.and_comm]

/-- A conflict names the node that it is about. -/
theorem nodeName_of_conflictOf? {conflict : TriggerConflict}
    (h : registry.conflictOf? others node = some conflict) : conflict.nodeName = node.name := by
  obtain ⟨_, _, _, _, _, _, _, _, rfl⟩ := conflictOf?_eq_some_iff.1 h
  rfl

/-- If some nodes have no conflict, neither have those of one name. -/
theorem ensureNoConflict_filter_eq_ok (h : registry.ensureNoConflict nodes others = .ok ())
    (name : String) : registry.ensureNoConflict (nodes.filter (·.name = name)) others = .ok () := by
  rw [ensureNoConflict_eq_ok_iff] at h ⊢
  intro node hnode
  exact h node (List.mem_filter.1 hnode).1

/-- The first conflict of some nodes is that of one of them, and it is the first one among those of
the same name. -/
theorem ensureNoConflict_filter_eq_error
    (h : registry.ensureNoConflict nodes others = .error error) :
    ∃ node ∈ nodes, error.nodeName? = some node.name ∧
      registry.ensureNoConflict (nodes.filter (·.name = node.name)) others = .error error := by
  unfold ensureNoConflict at h
  cases hfirst : nodes.findSome? (registry.conflictOf? others) with
  | none => simp [hfirst] at h
  | some conflict =>
      simp only [hfirst, Except.error.injEq] at h
      subst h
      obtain ⟨before, node, after, rfl, hconflict, hbefore⟩ := List.findSome?_eq_some_iff.1 hfirst
      have hname := nodeName_of_conflictOf? hconflict
      refine ⟨node, List.mem_append_right before List.mem_cons_self, congrArg some hname, ?_⟩
      have hnarrowed : ((before ++ node :: after).filter (·.name = node.name)).findSome?
          (registry.conflictOf? others) = some conflict := by
        rw [List.filter_append, List.filter_cons_of_pos (by simp)]
        refine List.findSome?_eq_some_iff.2 ⟨_, node, _, rfl, hconflict, ?_⟩
        intro earlier hearlier
        exact hbefore earlier (List.mem_filter.1 hearlier).1
      rw [ensureNoConflict, hnarrowed]

end ExclusivityRegistry

namespace StoreAnswers

open ExclusivityRegistry

variable {answers : StoreAnswers} {registry : ExclusivityRegistry} {workflow : Workflow}
  {isActive : Bool} {nodes : List Node} {error : TriggerError}

/-- If the others are found, the nodes of an inactive workflow are compared with them. -/
theorem judgement_of_found {others : List WorkflowSummary}
    (hfound : answers.found (.activeExcluding workflow.id) = .ok others) (nodes : List Node) :
    answers.judgement registry workflow false nodes = registry.ensureNoConflict nodes others := by
  cases nodes with
  | nil => rfl
  | cons node rest => simp [judgement, hfound]

theorem judgement_cons_of_active (node : Node) (rest : List Node) :
    answers.judgement registry workflow true (node :: rest) =
      .error (.singleTrigger node.name node.type) := rfl

theorem judgement_cons_of_failed {failure : RepositoryError}
    (hfound : answers.found (.activeExcluding workflow.id) = .error failure) (node : Node)
    (rest : List Node) :
    answers.judgement registry workflow false (node :: rest) = .error (.repository failure) := by
  simp [judgement, hfound]

/-- What passes for some nodes passes for those of one name. -/
theorem judgement_filter_eq_ok (h : answers.judgement registry workflow isActive nodes = .ok ())
    (name : String) :
    answers.judgement registry workflow isActive (nodes.filter (·.name = name)) = .ok () := by
  cases nodes with
  | nil => rfl
  | cons node rest =>
      cases isActive with
      | true => cases h
      | false =>
          cases hfound : answers.found (.activeExcluding workflow.id) with
          | error failure =>
              rw [judgement_cons_of_failed hfound] at h
              cases h
          | ok others =>
              rw [judgement_of_found hfound] at h ⊢
              exact ensureNoConflict_filter_eq_ok h name

/-- What is said against some nodes is said against those of the name of one of them, and no other
name is in the report. -/
theorem judgement_filter_eq_error
    (h : answers.judgement registry workflow isActive nodes = .error error) :
    ∃ node ∈ nodes, (∀ name, error.nodeName? = some name → name = node.name) ∧
      answers.judgement registry workflow isActive (nodes.filter (·.name = node.name)) =
        .error error := by
  cases nodes with
  | nil => cases h
  | cons first rest =>
      -- the first node is kept when its name is
      have hkept : (first :: rest).filter (·.name = first.name) =
          first :: rest.filter (·.name = first.name) := List.filter_cons_of_pos (by simp)
      cases isActive with
      | true =>
          cases h
          refine ⟨first, List.mem_cons_self, fun name hname ↦ (Option.some.inj hname).symm, ?_⟩
          rw [hkept, judgement_cons_of_active]
      | false =>
          cases hfound : answers.found (.activeExcluding workflow.id) with
          | error failure =>
              rw [judgement_cons_of_failed hfound] at h
              cases h
              refine ⟨first, List.mem_cons_self, fun name hname ↦ (by cases hname), ?_⟩
              rw [hkept, judgement_cons_of_failed hfound]
          | ok others =>
              rw [judgement_of_found hfound] at h
              obtain ⟨node, hnode, hname, hsame⟩ := ensureNoConflict_filter_eq_error h
              refine ⟨node, hnode, fun name h ↦ Option.some.inj (h.symm.trans hname), ?_⟩
              rw [judgement_of_found hfound, hsame]

/-- The check before a manual run of a workflow passes exactly if it has nothing to compare, or if
the workflow is inactive and no node of it is contested by the other active workflows. -/
theorem manualRun_eq_ok_iff :
    answers.manualRun registry workflow isActive none = .ok () ↔
      (∀ node ∈ workflow.nodes, ¬ node.MayClaim registry workflow.pinData) ∨
        isActive = false ∧ ∃ others, answers.found (.activeExcluding workflow.id) = .ok others ∧
          ∀ node ∈ workflow.nodes, ¬ node.Contested registry workflow.pinData others := by
  rw [manualRun_eq_judgement, ← isEmpty_claimants_iff]
  simp only [← ensureNoConflict_claimants_eq_ok_iff]
  cases registry.claimants workflow none with
  | nil => exact iff_of_true rfl (.inl rfl)
  | cons node rest =>
      cases isActive with
      | true => simp [judgement_cons_of_active]
      | false =>
          cases hfound : answers.found (.activeExcluding workflow.id) with
          | error failure => simp [judgement_cons_of_failed hfound]
          | ok others => simp [judgement_of_found hfound]

/-- The check before a manual run of a workflow passes exactly if it passes from each name, or from
each node; and what it reports with the name of a node is what it reports from that name. It passes
if there is nothing to compare, or if an inactive workflow has no contested node. -/
theorem manualRun_narrows (answers : StoreAnswers) (registry : ExclusivityRegistry)
    (workflow : Workflow) (isActive : Bool) :
    (answers.manualRun registry workflow isActive none = .ok () ↔
        (∀ node ∈ workflow.nodes, ¬ node.MayClaim registry workflow.pinData) ∨
          isActive = false ∧ ∃ others, answers.found (.activeExcluding workflow.id) = .ok others ∧
            ∀ node ∈ workflow.nodes, ¬ node.Contested registry workflow.pinData others) ∧
      (answers.manualRun registry workflow isActive none = .ok () ↔
        ∀ name, answers.manualRun registry workflow isActive (some name) = .ok ()) ∧
      (answers.manualRun registry workflow isActive none = .ok () ↔
        ∀ node ∈ workflow.nodes,
          answers.manualRun registry workflow isActive (some node.name) = .ok ()) ∧
      ∀ error name, answers.manualRun registry workflow isActive none = .error error →
        error.nodeName? = some name →
          answers.manualRun registry workflow isActive (some name) = .error error := by
  refine ⟨manualRun_eq_ok_iff, ?_⟩
  simp only [manualRun_eq_judgement, claimants_some]
  generalize hnodes : registry.claimants workflow none = nodes
  have hmem : ∀ node ∈ nodes, node ∈ workflow.nodes := by
    subst hnodes
    exact fun node hnode ↦ (mem_claimants_iff.1 hnode).1
  have hpasses : (∀ node ∈ workflow.nodes, answers.judgement registry workflow isActive
      (nodes.filter (·.name = node.name)) = .ok ()) →
        answers.judgement registry workflow isActive nodes = .ok () := by
    intro hnamed
    cases hall : answers.judgement registry workflow isActive nodes with
    | ok => rfl
    | error error =>
        obtain ⟨node, hnode, _, hsame⟩ := judgement_filter_eq_error hall
        rw [hnamed node (hmem node hnode)] at hsame
        cases hsame
  refine ⟨⟨judgement_filter_eq_ok, fun hnamed ↦ hpasses fun node _ ↦ hnamed node.name⟩,
    ⟨fun hall node _ ↦ judgement_filter_eq_ok hall node.name, hpasses⟩, ?_⟩
  intro error name herror hname
  obtain ⟨node, _, honly, hsame⟩ := judgement_filter_eq_error herror
  rwa [honly name hname]

/-- A workflow that consumes topics, each one with a node of a given name. -/
def listeners (id : String) (topics : List (String × String)) (activation : Activation) :
    Workflow where
  id := id
  name := "Listeners"
  nodes := topics.map fun topic ↦ ⟨topic.1, kafkaTrigger, .one,
    .ofList [("groupId", .string "billing"), ("topic", .string topic.2)], false, none⟩
  pinData := .empty
  activation := activation

/-- The second of two nodes with one name is refused in a run of the whole workflow, and so in a run
from this name. -/
theorem listeners_narrow :
    let workflow :=
      listeners "1" [("Listen", "payments"), ("Listen", "orders"), ("Spare", "returns")]
        (.versioned none)
    let answers := ofStore (WorkflowStore.put .empty
      (listeners "2" [("Consume", "orders")] (.legacy true))) []
    let error : TriggerError := .parameterConflict
      ⟨"Listen", kafkaTrigger, "groupId=billing, topic=orders", "2", "Listeners"⟩
    answers.manualRun defaults workflow false none = .error error ∧
      error.nodeName? = some "Listen" ∧
      answers.manualRun defaults workflow false (some "Listen") = .error error := by
  intro workflow answers error
  have hrun : answers.manualRun defaults workflow false none = .error error := by
    rw [manualRun_eq_judgement]
    rfl
  have hname : error.nodeName? = some "Listen" := rfl
  exact ⟨hrun, hname,
    (manualRun_narrows answers defaults workflow false).2.2.2 error "Listen" hrun hname⟩

end StoreAnswers

end FlowGate
