import FlowGate.Proofs.Resume.Methods

/-!
# The two readings of an id and a suffix

A request on a waiting execution comes with an execution id and a suffix, and the service reads them
twice: from the path that they make up, for the methods to be named, and from the call.
`splitWebhookPath?_eq_some_iff` says what a path is cut into, and `readsAlike_iff` for which ids and
suffixes the two readings find the same execution and match the same webhooks.
-/

namespace FlowGate

variable {id : String} {suffix : Option String}

/-- The path of an id and a suffix ends like the suffix. -/
theorem getLast?_webhookPath {last : Char} (h : (suffix.getD "").toList.getLast? = some last) :
    (webhookPath id suffix).toList.getLast? = some last := by
  cases suffix with
  | none => cases h
  | some text =>
      have hlast : text.toList.getLast? = some last := h
      rw [webhookPath, String.toList_append, List.getLast?_append, hlast, Option.some_or]

/-- A path is cut into an id that is one segment, and a suffix if more is left between the outer
slashes. -/
theorem splitWebhookPath?_eq_some_iff {path : String} :
    splitWebhookPath? path = some (id, suffix) ↔
      Text.TrimsTo Text.isSlash path (webhookPath id suffix) ∧ id ≠ "" ∧ '/' ∉ id.toList := by
  have hbare := Text.bare_trimBy Text.isSlash path
  rw [← Text.trimBy_eq_iff, splitWebhookPath?, Text.trimSlashes]
  generalize Text.trimBy Text.isSlash path = trimmed at hbare
  constructor
  · intro h
    by_cases hempty : trimmed = ""
    · simp only [if_pos hempty] at h
      cases h
    simp only [if_neg hempty] at h
    cases hcut : Text.splitOnce? '/' trimmed with
    | none =>
        rw [hcut] at h
        cases h
        exact ⟨rfl, hempty, Text.not_mem_of_splitOnce?_eq_none hcut⟩
    | some parts =>
        obtain ⟨start, rest⟩ := parts
        rw [hcut] at h
        cases h
        obtain ⟨rfl, hsegment⟩ := Text.splitOnce?_eq_some_iff.1 hcut
        refine ⟨rfl, ?_, hsegment⟩
        -- without an id the path would begin with a slash
        rintro rfl
        exact absurd (hbare.first '/' (by simp)) (by decide)
  · rintro ⟨rfl, hid, hsegment⟩
    cases suffix with
    | none => simp only [webhookPath, if_neg hid, Text.splitOnce?_eq_none hsegment]
    | some text =>
        have hpath : id ++ "/" ++ text ≠ "" := by
          rw [Ne, ← String.toList_inj]
          simp
        have hcut : Text.splitOnce? '/' (id ++ "/" ++ text) = some (id, text) :=
          Text.splitOnce?_append hsegment
        simp only [webhookPath, if_neg hpath, hcut]

/-- The path of an id and a suffix is cut into the id and a suffix that matches the same webhooks
exactly if the id is one segment and the suffix does not end with a slash. -/
theorem exists_splitWebhookPath?_iff :
    (∃ rest, splitWebhookPath? (webhookPath id suffix) = some (id, rest) ∧
      rest.getD "" = suffix.getD "") ↔
      id ≠ "" ∧ '/' ∉ id.toList ∧ (suffix.getD "").toList.getLast? ≠ some '/' := by
  constructor
  · rintro ⟨rest, hsplit, hrest⟩
    obtain ⟨htrims, hid, hsegment⟩ := splitWebhookPath?_eq_some_iff.1 hsplit
    refine ⟨hid, hsegment, fun hlast ↦ ?_⟩
    rw [← hrest] at hlast
    exact absurd (htrims.bare.last '/' (getLast?_webhookPath hlast)) (by decide)
  · rintro ⟨hid, hsegment, hsuffix⟩
    exact splitWebhookPath?_webhookPath hid hsegment hsuffix

namespace WaitingWebhooks

variable {σ : Type}

/-- The service with a log of the ids under which it looks executions up. -/
def searching (service : WaitingWebhooks (StateM σ)) :
    WaitingWebhooks (StateM (σ × List String)) where
  findExecution id := modifyGet fun (state, log) ↦
    let (found, state) := (service.findExecution id).run state
    (found, state, log ++ [id])
  webhooks := service.webhooks
  resume resumption := modifyGet fun (state, log) ↦
    let (answer, state) := (service.resume resumption).run state
    (answer, state, log)
  signer := service.signer
  routePrefix := service.routePrefix

/-- The ids under which executions are looked up to name the methods of a path. -/
def soughtByPath (service : WaitingWebhooks (StateM σ)) (state : σ) (path : String) :
    List String :=
  ((service.searching.methods path).run (state, [])).2.2

/-- The ids under which executions are looked up for a call. -/
def soughtByCall (service : WaitingWebhooks (StateM σ)) (state : σ) (call : WebhookCall) :
    List String :=
  ((service.searching.execute call).run (state, [])).2.2

/-- The service with this log names the same methods, and notes the id of the path. -/
theorem run_searching_methods (service : WaitingWebhooks (StateM σ)) (state : σ)
    (log : List String) (path : String) :
    (service.searching.methods path).run (state, log) =
      (service.named state path, ((service.methods path).run state).2,
        log ++ ((splitWebhookPath? path).map Prod.fst).toList) := by
  unfold named methods
  cases splitWebhookPath? path with
  | none => exact congrArg (fun log ↦ ([], state, log)) (List.append_nil log).symm
  | some parts => rfl

/-- It answers a call like the service, and notes the id of the call. -/
theorem run_searching_execute (service : WaitingWebhooks (StateM σ)) (state : σ)
    (log : List String) (call : WebhookCall) :
    (service.searching.execute call).run (state, log) =
      (((service.execute call).run state).1, ((service.execute call).run state).2,
        log ++ [call.executionId]) := by
  have hfind : (service.searching.findExecution call.executionId).run (state, log) =
      (service.found state call.executionId,
        ((service.findExecution call.executionId).run state).2, log ++ [call.executionId]) := rfl
  rw [run_execute, run_execute, hfind]
  simp only [searching, found]
  rcases (service.findExecution call.executionId).run state with ⟨result, next⟩
  simp only
  cases resolveCall service.webhooks service.signer call result <;> rfl

/-- What it means that a service reads the path of an id and a suffix as it reads a call with the
two, whatever its executions and webhooks are. -/
structure ReadsAlike (id : String) (suffix : Option String) : Prop where
  /-- The methods of the path are those of the execution that is looked up for the call. -/
  sought : ∀ {σ : Type} (service : WaitingWebhooks (StateM σ)) (state : σ) (call : WebhookCall),
    call.executionId = id → call.suffix = suffix →
      service.soughtByPath state (webhookPath id suffix) = service.soughtByCall state call
  /-- A method is named exactly if this execution is open and a webhook matches the call. -/
  matched : ∀ {σ : Type} (service : WaitingWebhooks (StateM σ)) (state : σ) (call : WebhookCall),
    call.executionId = id → call.suffix = suffix →
      (call.method ∈ service.named state (webhookPath id suffix) ↔
        ∃ execution webhook, service.found state call.executionId = .ok (some execution) ∧
          execution.IsOpen ∧ findRestart? (execution.lastWebhooks service.webhooks) call.method
            call.suffix = some webhook)

/-- A method is named for a path if a webhook of the execution matches the method and the suffix
that the path is cut into. -/
theorem mem_named_iff (service : WaitingWebhooks (StateM σ)) (state : σ) {path : String}
    {method : Method} (hpath : splitWebhookPath? path = some (id, suffix)) :
    method ∈ service.named state path ↔
      ∃ execution webhook, service.found state id = .ok (some execution) ∧ execution.IsOpen ∧
        findRestart? (execution.lastWebhooks service.webhooks) method suffix = some webhook := by
  rw [named_eq, hpath]
  simp only
  cases service.found state id with
  | error error => simp [advertisedMethods]
  | ok stored =>
      cases stored with
      | none => simp [advertisedMethods]
      | some execution =>
          rw [Execution.mem_advertisedMethods_iff, mem_matchingMethods_iff]
          simp

/-- Readings of a path that are cut at the id and a suffix like that of a call are alike. -/
theorem readsAlike_of_splitWebhookPath? {rest : Option String}
    (hpath : splitWebhookPath? (webhookPath id suffix) = some (id, rest))
    (hrest : rest.getD "" = suffix.getD "") : ReadsAlike id suffix where
  sought service state call hid _ := by
    rw [soughtByPath, soughtByCall, run_searching_methods, run_searching_execute, hpath, hid]
    rfl
  matched service state call hid hsuffix := by
    rw [mem_named_iff service state hpath, hid, hsuffix]
    simp only [findRestart?, hrest]

/-- A service under whose ids there are executions that all wait for one suffix. -/
def offering (suffix : String) : WaitingWebhooks (StateM Unit) where
  findExecution id := pure (.ok (some (.waitingIn id (.plain "Wait" "pause"))))
  webhooks _ node := [⟨.get, suffix, node.name, true⟩]
  resume _ := pure (.ok none)
  signer := ⟨fun _ ↦ "", fun _ _ ↦ false⟩
  routePrefix := ""

/-- It names a method for a path only if this has the suffix. -/
theorem eq_of_mem_named_offering {path text : String} {method : Method}
    (hpath : splitWebhookPath? path = some (id, suffix))
    (h : method ∈ (offering text).named () path) : suffix.getD "" = text := by
  obtain ⟨execution, webhook, hfound, _, hwebhook⟩ := (mem_named_iff _ () hpath).1 h
  cases hfound
  obtain rfl := List.mem_singleton.1 (List.mem_of_find?_eq_some hwebhook)
  have hmatches := List.find?_some hwebhook
  rw [Bool.and_eq_true, decide_eq_true_eq] at hmatches
  exact hmatches.2.symm

/-- Where the readings are alike, the path is cut at the id, into a suffix like that of a call. -/
theorem ReadsAlike.exists_splitWebhookPath? (h : ReadsAlike id suffix) :
    ∃ rest, splitWebhookPath? (webhookPath id suffix) = some (id, rest) ∧
      rest.getD "" = suffix.getD "" := by
  let service := offering (suffix.getD "")
  let call : WebhookCall := { WebhookCall.plain .get id with suffix := suffix }
  have hsought := h.sought service () call rfl rfl
  rw [soughtByPath, soughtByCall, run_searching_methods, run_searching_execute] at hsought
  cases hpath : splitWebhookPath? (webhookPath id suffix) with
  | none =>
      rw [hpath] at hsought
      cases hsought
  | some parts =>
      obtain ⟨found, rest⟩ := parts
      rw [hpath] at hsought
      cases hsought
      have hoffered : findRestart? [⟨.get, suffix.getD "", "Wait", true⟩] .get suffix =
          some ⟨.get, suffix.getD "", "Wait", true⟩ := by
        simp [findRestart?]
      have hnamed := (h.matched service () call rfl rfl).2 ⟨_, _, rfl, ⟨rfl, .inr rfl⟩, hoffered⟩
      exact ⟨rest, rfl, eq_of_mem_named_offering hpath hnamed⟩

/-- Where the readings are alike, the methods of the path are those of the execution with the id on
the suffix. -/
theorem ReadsAlike.named_eq (h : ReadsAlike id suffix) (service : WaitingWebhooks (StateM σ))
    (state : σ) :
    service.named state (webhookPath id suffix) =
      advertisedMethods service.webhooks suffix (service.found state id) := by
  obtain ⟨rest, hpath, hrest⟩ := h.exists_splitWebhookPath?
  rw [WaitingWebhooks.named_eq, hpath]
  simp only [advertisedMethods, restartMethods, hrest]

/-- A service reads the path of an id and a suffix as it reads a call with the two exactly if the id
is one segment and the suffix does not end with a slash. -/
theorem readsAlike_iff :
    ReadsAlike id suffix ↔
      id ≠ "" ∧ '/' ∉ id.toList ∧ (suffix.getD "").toList.getLast? ≠ some '/' := by
  rw [← exists_splitWebhookPath?_iff]
  constructor
  · exact ReadsAlike.exists_splitWebhookPath?
  · rintro ⟨rest, hpath, hrest⟩
    exact readsAlike_of_splitWebhookPath? hpath hrest

end WaitingWebhooks

end FlowGate
