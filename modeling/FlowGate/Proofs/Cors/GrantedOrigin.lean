import FlowGate.Cors.Policy
import FlowGate.Proofs.Http.Headers

/-!
# The origin that is granted

A preflight gets two more headers than another request. `valuesOf_applyHeaders_eq_plain` says the
others are the same, and `valuesOf_applyHeaders` that they name one origin. `isValueText_allowed`
and `allowedOrigin_none` say what it can be under the policies that the server has: the origin of
the request, or any origin if the request names none.
-/

namespace FlowGate.Cors

variable {request : Request} {policy : Policy} {headers : HeaderList}

/-- The headers for a preflight are those for another request, the time for which the answer may be
kept and the announced headers, if there are some. -/
theorem applyHeaders_of_preflight (hpreflight : policy.isPreflight = true) :
    applyHeaders request policy headers =
      let kept := (applyHeaders request { policy with isPreflight := false } headers).set
        maxAgeHeader (toString preflightMaxAge)
      match request.announcedHeaders.filter (· ≠ "") with
      | some announced => kept.set allowHeadersHeader announced
      | none => kept := by
  have horigins : Policy.origins { policy with isPreflight := false } = policy.origins := rfl
  simp only [applyHeaders, hpreflight, horigins, if_true, Bool.false_eq_true, if_false]
  cases request.announcedHeaders with
  | none => rfl
  | some announced =>
      by_cases hempty : announced = ""
      · subst hempty
        rfl
      · have hkept : (some announced).filter (· ≠ "") = some announced := by simp [hempty]
        rw [hkept]
        exact if_neg hempty

/-- Every other header is the same for a preflight as for another request. -/
theorem valuesOf_applyHeaders_eq_plain {name : String}
    (hage : Text.lowercase maxAgeHeader ≠ Text.lowercase name)
    (hheaders : Text.lowercase allowHeadersHeader ≠ Text.lowercase name) :
    (applyHeaders request policy headers).valuesOf name =
      (applyHeaders request { policy with isPreflight := false } headers).valuesOf name := by
  cases hpreflight : policy.isPreflight with
  | false => rw [← hpreflight]
  | true =>
      rw [applyHeaders_of_preflight hpreflight]
      have hkept := HeaderList.valuesOf_set_of_ne hage
        (applyHeaders request { policy with isPreflight := false } headers)
        (toString preflightMaxAge)
      cases request.announcedHeaders.filter (· ≠ "") with
      | none => exact hkept
      | some announced => exact (HeaderList.valuesOf_set_of_ne hheaders _ announced).trans hkept

/-- The headers for a request grant access to one origin. -/
theorem valuesOf_applyHeaders (h : headers.valuesOf allowOriginHeader = []) :
    (applyHeaders request policy headers).valuesOf allowOriginHeader =
      [allowedOrigin policy.origins request.origin] := by
  have hmethods : Text.lowercase allowMethodsHeader ≠ Text.lowercase allowOriginHeader := by decide
  have hstart : (if policy.allowedMethods.isEmpty then headers else
      headers.set allowMethodsHeader (methodList policy.allowedMethods)).valuesOf
        allowOriginHeader = [] := by
    split
    · exact h
    · rw [HeaderList.valuesOf_set_of_ne hmethods, h]
  rw [valuesOf_applyHeaders_eq_plain (by decide) (by decide)]
  simp only [applyHeaders, Bool.false_eq_true, if_false]
  exact HeaderList.valuesOf_set_of_absent hstart _

/-- A route that has no policy, or one that admits any origin, admits no other ones. -/
theorem Policy.eq_anyOrigin_of_mem_origins
    (h : ∀ control ∈ policy.accessControl, control.allowedOrigins = some anyOrigin) :
    ∀ origins ∈ policy.origins, origins = anyOrigin := by
  intro origins horigins
  obtain ⟨_, _, horigins⟩ := Option.bind_eq_some_iff.1 horigins
  obtain ⟨control, hcontrol, horigins⟩ := Option.bind_eq_some_iff.1 horigins
  exact Option.some.inj (horigins.symm.trans (h control hcontrol))

/-- A policy that admits every origin, or none, grants any origin to a request that names none. -/
theorem allowedOrigin_none {origins : Option String} (h : ∀ policy ∈ origins, policy = anyOrigin) :
    allowedOrigin origins none = anyOrigin := by
  cases origins with
  | none => rfl
  | some policy =>
      rw [h policy rfl]
      rfl

/-- Under such a policy the granted origin can be sent if the origin of the request can. -/
theorem isValueText_allowed {origins origin : Option String}
    (hpolicy : ∀ policy ∈ origins, policy = anyOrigin)
    (horigin : ∀ value ∈ origin, HeaderList.isValueText value = true) :
    HeaderList.isValueText (allowedOrigin origins origin) = true := by
  have hany : HeaderList.isValueText anyOrigin = true := by decide
  cases origin with
  | none => rwa [allowedOrigin_none hpolicy]
  | some value =>
      have hvalue := horigin value rfl
      cases origins with
      | none =>
          show HeaderList.isValueText (((some value).filter (· ≠ "")).getD anyOrigin) = true
          rw [Option.filter_some]
          split
          · exact hvalue
          · exact hany
      | some policy =>
          rw [hpolicy policy rfl]
          show HeaderList.isValueText
            (if isNullOrigin (some value) then anyOrigin else value) = true
          split
          · exact hany
          · exact hvalue

end FlowGate.Cors
