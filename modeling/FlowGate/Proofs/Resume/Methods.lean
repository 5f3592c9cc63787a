import FlowGate.Proofs.Resume.Bundled
import FlowGate.Proofs.Resume.Observed
import FlowGate.Proofs.Text.Trim

/-!
# The methods of a path are those of its calls

The methods of an execution are looked up by one path, which is cut into an id and a suffix; a call
comes with the two apart. `splitWebhookPath?_webhookPath` says the path of an id and a suffix is cut
into equivalent parts, and `methods_match_calls` that the methods named for it are those with which
a call reaches the engine.
-/

namespace FlowGate

/-- The path of an execution id and a suffix. -/
def webhookPath (id : String) : Option String → String
  | none => id
  | some suffix => id ++ "/" ++ suffix

/-- A number of slashes. -/
def slashes (count : Nat) : String := String.ofList (List.replicate count '/')

variable {id : String} {suffix : Option String}

theorem isSlash_of_mem_slashes {count : Nat} {c : Char} (h : c ∈ (slashes count).toList) :
    Text.isSlash c = true := by
  rw [slashes, String.toList_ofList] at h
  rw [List.eq_of_mem_replicate h]
  rfl

/-- Slashes around a path make no difference. -/
theorem splitWebhookPath?_slashes (path : String) (left right : Nat) :
    splitWebhookPath? (slashes left ++ path ++ slashes right) = splitWebhookPath? path := by
  unfold splitWebhookPath? Text.trimSlashes
  rw [Text.trimBy_pad path (fun _ ↦ isSlash_of_mem_slashes) fun _ ↦ isSlash_of_mem_slashes]

/-- The first character of an id without slashes is none. -/
theorem isSlash_head? {rest : List Char} (hid : id ≠ "") (hsegment : '/' ∉ id.toList) (c : Char)
    (hc : (id.toList ++ rest).head? = some c) : Text.isSlash c = false := by
  cases hchars : id.toList with
  | nil => exact absurd (String.toList_eq_nil_iff.1 hchars) hid
  | cons first others =>
      rw [hchars] at hc hsegment
      cases hc
      exact decide_eq_false fun heq ↦ hsegment (by simp [heq])

/-- An id without slashes is a path without a suffix. -/
theorem splitWebhookPath?_id (hid : id ≠ "") (hsegment : '/' ∉ id.toList) :
    splitWebhookPath? id = some (id, none) := by
  have htrim : Text.trimSlashes id = id := by
    refine Text.trimBy_eq_self (fun c hc ↦ ?_) fun c hc ↦ ?_
    · exact isSlash_head? hid hsegment c (by rwa [List.append_nil])
    · refine decide_eq_false ?_
      rintro rfl
      exact hsegment (List.mem_of_getLast? hc)
  simp only [splitWebhookPath?, htrim, if_neg hid, Text.splitOnce?_eq_none hsegment]

/-- A suffix that is not empty and does not end with a slash is what a path has after the id. -/
theorem splitWebhookPath?_suffixed {text : String} (hid : id ≠ "") (hsegment : '/' ∉ id.toList)
    (htext : text ≠ "") (hlast : text.toList.getLast? ≠ some '/') :
    splitWebhookPath? (id ++ "/" ++ text) = some (id, some text) := by
  have htrim : Text.trimSlashes (id ++ "/" ++ text) = id ++ "/" ++ text := by
    refine Text.trimBy_eq_self (fun c hc ↦ ?_) fun c hc ↦ ?_
    · rw [String.append_assoc, String.toList_append] at hc
      exact isSlash_head? hid hsegment c hc
    · have hchars : text.toList ≠ [] := fun hnil ↦ htext (String.toList_eq_nil_iff.1 hnil)
      rw [String.toList_append, List.getLast?_append] at hc
      cases hend : text.toList.getLast? with
      | none => exact absurd (List.getLast?_eq_none_iff.1 hend) hchars
      | some last =>
          rw [hend] at hc hlast
          cases hc
          refine decide_eq_false ?_
          rintro rfl
          exact hlast rfl
  have hpath : id ++ "/" ++ text ≠ "" := by
    intro hempty
    have := congrArg String.toList hempty
    simp at this
  have hcut : Text.splitOnce? '/' (id ++ "/" ++ text) = some (id, text) :=
    Text.splitOnce?_append hsegment
  simp only [splitWebhookPath?, htrim, if_neg hpath, hcut]

/-- The path of an id without slashes and a suffix that does not end with one is cut into the id
and a suffix that matches the same webhooks. -/
theorem splitWebhookPath?_webhookPath (hid : id ≠ "") (hsegment : '/' ∉ id.toList)
    (hsuffix : (suffix.getD "").toList.getLast? ≠ some '/') :
    ∃ rest, splitWebhookPath? (webhookPath id suffix) = some (id, rest) ∧
      rest.getD "" = suffix.getD "" := by
  cases suffix with
  | none => exact ⟨none, splitWebhookPath?_id hid hsegment, rfl⟩
  | some text =>
      by_cases htext : text = ""
      · -- the path ends with a slash, which is trimmed, so that no suffix is left
        subst htext
        refine ⟨none, ?_, rfl⟩
        have hslashes := splitWebhookPath?_slashes id 0 1
        rw [splitWebhookPath?_id hid hsegment] at hslashes
        simpa [webhookPath, slashes] using hslashes
      · exact ⟨some text, splitWebhookPath?_suffixed hid hsegment htext hsuffix, rfl⟩

/-- A suffix is compared with the paths of webhooks only. -/
theorem restartMethods_congr {suffix other : Option String} (webhooks : List WebhookDescriptor)
    (h : suffix.getD "" = other.getD "") :
    restartMethods webhooks suffix = restartMethods webhooks other := by
  simp only [restartMethods, h]

namespace WaitingWebhooks

variable {σ : Type} {service : WaitingWebhooks (StateM σ)} {state : σ} {execution : Execution}

/-- What it means that the methods named for the path of an execution id and a suffix are those of
the calls with this id and suffix. -/
structure MethodsMatchCalls (service : WaitingWebhooks (StateM σ)) (state : σ)
    (execution : Execution) (id : String) (suffix : Option String) : Prop where
  /-- A method is named exactly if a call with it reaches the engine. -/
  callable : ∀ call, call.executionId = id → call.suffix = suffix →
    (call.method ∈ service.named state (webhookPath id suffix) ↔ service.handed state call ≠ [])
  /-- No method is named twice. -/
  nodup : (service.named state (webhookPath id suffix)).Nodup
  /-- The methods are named in the order in which matching webhooks first have them. -/
  ordered : FirstOccurrences (matchingMethods (execution.lastWebhooks service.webhooks) suffix)
    (service.named state (webhookPath id suffix))
  /-- Slashes around the path make no difference. -/
  padded : ∀ left right,
    service.named state (slashes left ++ webhookPath id suffix ++ slashes right) =
      service.named state (webhookPath id suffix)

/-- Slashes around a path make no difference to the methods named for it. -/
theorem named_slashes (service : WaitingWebhooks (StateM σ)) (state : σ) (path : String)
    (left right : Nat) :
    service.named state (slashes left ++ path ++ slashes right) = service.named state path := by
  rw [named_eq, named_eq, splitWebhookPath?_slashes]

/-- The methods named for an open execution are those of the webhooks of its node. -/
theorem named_webhookPath (hfound : service.found state id = .ok (some execution))
    (hopen : execution.IsOpen) (hid : id ≠ "") (hsegment : '/' ∉ id.toList)
    (hsuffix : (suffix.getD "").toList.getLast? ≠ some '/') :
    service.named state (webhookPath id suffix) =
      restartMethods (execution.lastWebhooks service.webhooks) suffix := by
  obtain ⟨rest, hpath, hrest⟩ := splitWebhookPath?_webhookPath hid hsegment hsuffix
  rw [named_eq, hpath]
  simp only [hfound]
  rw [hopen.advertisedMethods_eq, restartMethods_congr _ hrest]

/-- For an execution that can be resumed and needs no token, the methods named for a path are those
with which a call reaches the engine. The id is one segment of a path; the suffix may be absent and
may contain slashes, but does not end with one. -/
theorem methods_match_calls (service : WaitingWebhooks (StateM σ)) (state : σ)
    (hfound : service.found state id = .ok (some execution))
    (hresumable : execution.ensureResumable = .ok ())
    (hunsigned : execution.data.validateSignature = false) (hid : id ≠ "")
    (hsegment : '/' ∉ id.toList) (hsuffix : (suffix.getD "").toList.getLast? ≠ some '/') :
    service.MethodsMatchCalls state execution id suffix := by
  have hopen := Execution.isOpen_of_ensureResumable hresumable
  have hordered : FirstOccurrences
      (matchingMethods (execution.lastWebhooks service.webhooks) suffix)
      (service.named state (webhookPath id suffix)) := by
    rw [named_webhookPath hfound hopen hid hsegment hsuffix]
    exact restartMethods_firstOccurrences _ _
  constructor
  case callable =>
    rintro call rfl rfl
    rw [handed_ne_nil_iff_of_found hfound, hordered.mem_iff]
    refine ⟨fun hmatching ↦ ⟨fun hsigned ↦ ?_, hresumable, hmatching⟩, fun h ↦ h.2.2⟩
    rw [hunsigned] at hsigned
    cases hsigned
  case nodup => exact hordered.nodup
  case ordered => exact hordered
  case padded => exact named_slashes service state _

/-- A node with two matching methods, one of them offered twice, and others that do not match. -/
theorem ask_methods_match_calls :
    let webhooks : NodeWebhooks := fun _ node ↦
      [⟨.post, "ask/now", node.name, true⟩, ⟨.put, "", node.name, true⟩,
        ⟨.get, "ask/now", node.name, true⟩, ⟨.post, "ask/now", node.name, true⟩,
        ⟨.delete, "ask/now", node.name, false⟩]
    let service := bundled webhooks ⟨(· ++ "!"), fun _ _ ↦ false⟩ "wait" 0
    let execution := Execution.waitingIn "7" (.plain "Ask" "pause")
    let store := ExecutionStore.put .empty execution
    service.MethodsMatchCalls store execution "7" (some "ask/now") ∧
      service.named store "/7/ask/now//" = [.post, .get] :=
  ⟨methods_match_calls _ _ rfl rfl rfl (by decide) (by decide) (by decide), by decide⟩

end WaitingWebhooks

end FlowGate
