import FlowGate.Proofs.Resume.Resolution

/-!
# The advertised methods

`restartMethods_firstOccurrences` says the methods with which a node can be called are those of its
matching webhooks, each once and in the order in which they first occur.
`mem_advertisedMethods_iff` says which methods an execution is advertised with, and
`exists_isFor_iff` which calls resume it.
-/

namespace FlowGate

/-- The methods of the webhooks that resume an execution for a path suffix, in the order of the
webhooks. -/
def matchingMethods (webhooks : List WebhookDescriptor) (suffix : Option String) : List Method :=
  (webhooks.filter fun webhook ↦ webhook.isRestart && webhook.path = suffix.getD "").map (·.method)

/-- `FirstOccurrences seen methods` says `methods` are those of `seen`, each once and in the order
of their first occurrences. -/
structure FirstOccurrences (seen methods : List Method) : Prop where
  mem_iff : ∀ method, method ∈ methods ↔ method ∈ seen
  ordered : methods.Pairwise fun earlier later ↦ seen.idxOf earlier < seen.idxOf later

namespace FirstOccurrences

variable {seen methods : List Method}

theorem nodup (h : FirstOccurrences seen methods) : methods.Nodup := by
  refine h.ordered.imp fun hlt heq ↦ ?_
  rw [heq] at hlt
  exact Nat.lt_irrefl _ hlt

/-- One more method is put at the end unless it was seen before. -/
theorem step (h : FirstOccurrences seen methods) (method : Method) :
    FirstOccurrences (seen ++ [method])
      (if method ∉ methods then methods ++ [method] else methods) := by
  have hordered : methods.Pairwise fun earlier later ↦
      (seen ++ [method]).idxOf earlier < (seen ++ [method]).idxOf later := by
    refine h.ordered.imp_of_mem fun hearlier hlater hlt ↦ ?_
    rwa [List.idxOf_append, if_pos ((h.mem_iff _).1 hearlier), List.idxOf_append,
      if_pos ((h.mem_iff _).1 hlater)]
  by_cases hseen : method ∈ methods
  · rw [if_neg (not_not_intro hseen)]
    refine ⟨fun other ↦ ?_, hordered⟩
    have hmethod := (h.mem_iff method).1 hseen
    rw [h.mem_iff, List.mem_append, List.mem_singleton]
    refine ⟨.inl, ?_⟩
    rintro (hother | rfl)
    · exact hother
    · exact hmethod
  · -- the new method comes first at the end of what was seen
    rw [if_pos hseen]
    refine ⟨fun other ↦ by simp [h.mem_iff], List.pairwise_append.2 ⟨hordered, by simp, ?_⟩⟩
    intro earlier hearlier later hlater
    cases List.mem_singleton.1 hlater
    have hunseen : method ∉ seen := fun hmem ↦ hseen ((h.mem_iff _).2 hmem)
    have hlt := List.idxOf_lt_length_of_mem ((h.mem_iff _).1 hearlier)
    rw [List.idxOf_append, if_pos ((h.mem_iff _).1 hearlier), List.idxOf_append, if_neg hunseen]
    omega

end FirstOccurrences

variable {webhooks : List WebhookDescriptor} {suffix : Option String} {method : Method}

/-- The search for methods keeps the methods it has seen, each once. -/
theorem firstOccurrences_foldl {seen methods : List Method} (h : FirstOccurrences seen methods)
    (webhooks : List WebhookDescriptor) (suffix : Option String) :
    FirstOccurrences (seen ++ matchingMethods webhooks suffix)
      (webhooks.foldl
        (fun methods webhook ↦
          if webhook.isRestart && webhook.path = suffix.getD "" && webhook.method ∉ methods then
            methods ++ [webhook.method]
          else methods)
        methods) := by
  induction webhooks generalizing seen methods with
  | nil => simpa [matchingMethods] using h
  | cons webhook rest ih =>
      rw [List.foldl_cons]
      cases hmatches : webhook.isRestart && webhook.path = suffix.getD "" with
      | false =>
          have hrest : matchingMethods (webhook :: rest) suffix = matchingMethods rest suffix := by
            simp only [matchingMethods, List.filter_cons, hmatches, Bool.false_eq_true, if_false]
          rw [hrest]
          exact ih h
      | true =>
          have hrest : matchingMethods (webhook :: rest) suffix =
              webhook.method :: matchingMethods rest suffix := by
            simp only [matchingMethods, List.filter_cons, hmatches, if_true, List.map_cons]
          rw [hrest, List.append_cons]
          have hstep := h.step webhook.method
          simp only [Bool.true_and, decide_eq_true_eq]
          exact ih hstep

/-- The methods with which a node can be called are those of its matching webhooks, each once and
in the order in which they first occur. -/
theorem restartMethods_firstOccurrences (webhooks : List WebhookDescriptor)
    (suffix : Option String) :
    FirstOccurrences (matchingMethods webhooks suffix) (restartMethods webhooks suffix) :=
  firstOccurrences_foldl ⟨fun _ ↦ Iff.rfl, .nil⟩ webhooks suffix

/-- A method has a matching webhook exactly when a call with it finds one. -/
theorem mem_matchingMethods_iff :
    method ∈ matchingMethods webhooks suffix ↔
      ∃ webhook, findRestart? webhooks method suffix = some webhook := by
  rw [← Option.isSome_iff_exists, findRestart?, List.find?_isSome, matchingMethods]
  constructor
  · intro h
    obtain ⟨webhook, hmem, rfl⟩ := List.mem_map.1 h
    obtain ⟨hwebhook, hmatches⟩ := List.mem_filter.1 hmem
    exact ⟨webhook, hwebhook, by simpa using hmatches⟩
  · intro hexists
    obtain ⟨webhook, hwebhook, hmatches⟩ := hexists
    simp only [Bool.and_eq_true, decide_eq_true_eq] at hmatches
    obtain ⟨⟨hrestart, rfl⟩, hpath⟩ := hmatches
    exact List.mem_map.2 ⟨webhook, List.mem_filter.2 ⟨hwebhook, by simp [hrestart, hpath]⟩, rfl⟩

namespace Execution

variable {execution : Execution} {node : Node}

/-- `execution.IsOpen` says the execution is in a state whose methods are looked up: it has not
ended and is not running. -/
def IsOpen (execution : Execution) : Prop :=
  execution.finished = false ∧ (execution.status = .new ∨ execution.status = .waiting)

/-- The webhooks of the node that an execution was waiting in. -/
def lastWebhooks (webhooks : NodeWebhooks) (execution : Execution) : List WebhookDescriptor :=
  match execution.lastNode? with
  | none => []
  | some node => webhooks (Workflow.ofSnapshot execution.workflowData) node

/-- An open execution has the methods of its node. -/
theorem IsOpen.advertisedMethods_eq (h : execution.IsOpen) (webhooks : NodeWebhooks)
    (suffix : Option String) :
    advertisedMethods webhooks suffix (.ok (some execution)) =
      restartMethods (execution.lastWebhooks webhooks) suffix := by
  obtain ⟨hfinished, hstatus⟩ := h
  have hstate : (execution.finished || execution.status.isTerminal ||
      execution.status = .running) = false := by
    rcases hstatus with hstatus | hstatus <;> simp [hfinished, hstatus, ExecutionStatus.isTerminal]
  simp only [advertisedMethods, hstate, Bool.false_eq_true, if_false, lastWebhooks, lastNode?]
  cases execution.data.resultData.lastNodeExecuted.bind
    (Workflow.ofSnapshot execution.workflowData).node? with
  | none => rfl
  | some node => rfl

/-- Only an open execution has methods. -/
theorem isOpen_of_mem_advertisedMethods {webhooks : NodeWebhooks}
    (h : method ∈ advertisedMethods webhooks suffix (.ok (some execution))) :
    execution.IsOpen := by
  simp only [advertisedMethods] at h
  split at h
  · cases h
  next hstate =>
  simp only [Bool.or_eq_true, not_or, Bool.not_eq_true, decide_eq_true_eq] at hstate
  refine ⟨hstate.1.1, ?_⟩
  cases hstatus : execution.status <;> simp_all [ExecutionStatus.isTerminal]

/-- An execution is advertised with the matching methods of its node while it is open. -/
theorem mem_advertisedMethods_iff {webhooks : NodeWebhooks} :
    method ∈ advertisedMethods webhooks suffix (.ok (some execution)) ↔
      execution.IsOpen ∧ method ∈ matchingMethods (execution.lastWebhooks webhooks) suffix := by
  constructor
  · intro h
    have hopen := isOpen_of_mem_advertisedMethods h
    rw [hopen.advertisedMethods_eq] at h
    exact ⟨hopen, ((restartMethods_firstOccurrences _ _).mem_iff method).1 h⟩
  · intro hboth
    obtain ⟨hopen, hmethod⟩ := hboth
    rw [hopen.advertisedMethods_eq]
    exact ((restartMethods_firstOccurrences _ _).mem_iff method).2 hmethod

/-- An execution that can be resumed is open. -/
theorem isOpen_of_ensureResumable (h : execution.ensureResumable = .ok ()) : execution.IsOpen := by
  obtain ⟨hstatus, hfinished, _⟩ := ensureResumable_eq_ok_iff.1 h
  exact ⟨hfinished, .inr hstatus⟩

/-- A call resumes an execution exactly when it is authorized, the execution can be resumed, and a
webhook of its node matches. -/
theorem exists_isFor_iff {webhooks : NodeWebhooks} {signer : UrlSigner} {call : WebhookCall} :
    (∃ resumption : Resumption, resumption.IsFor webhooks signer call execution) ↔
      (execution.data.validateSignature = true → signer.accepts call = true) ∧
        execution.ensureResumable = .ok () ∧
        call.method ∈ matchingMethods (execution.lastWebhooks webhooks) call.suffix := by
  rw [mem_matchingMethods_iff]
  constructor
  · intro hexists
    obtain ⟨resumption, h⟩ := hexists
    refine ⟨h.authorized, h.resumable, resumption.webhook, ?_⟩
    rw [lastWebhooks, h.node]
    exact h.webhook
  · intro hexists
    obtain ⟨hauthorized, hresumable, webhook, hwebhook⟩ := hexists
    cases hnode : execution.lastNode? with
    | none => simp [lastWebhooks, hnode, findRestart?] at hwebhook
    | some node =>
        rw [lastWebhooks, hnode] at hwebhook
        exact ⟨⟨execution.prepareForResume node, Workflow.ofSnapshot execution.workflowData, node,
          webhook, call⟩, {
            authorized := hauthorized
            resumable := hresumable
            node := hnode
            webhook := hwebhook
            prepared := rfl
            workflow := rfl
            call := rfl }⟩

end Execution

end FlowGate
