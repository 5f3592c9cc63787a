import FlowGate.Text.Basic

/-!
# Origins

Choosing the origin that a response grants access to. A policy is `*` or a list of origins between
commas. `allowedOrigin` echoes an origin that the policy admits, answers an origin that is not
listed with the first listed one, and without a usable policy echoes any origin.
-/

namespace FlowGate.Cors

/-- The policy that admits every origin. -/
def anyOrigin : String := "*"

/-- The origin that stands for no origin at all. -/
def nullOrigin : String := "null"

/-- An origin other than the null origin. -/
def normalizeOrigin (origin : Option String) : Option String := origin.filter (· ≠ nullOrigin)

/-- `isNullOrigin origin` says a request gives no origin: none, an empty one or the null origin. -/
def isNullOrigin : Option String → Bool
  | none => true
  | some origin => origin = "" || origin = nullOrigin

/-- The origins that a policy lists, without blanks around them and without empty ones. -/
def listedOrigins (policy : String) : List String :=
  ((Text.splitOn ',' policy).map Text.trim).filter (· ≠ "")

/-- The origin granted when no policy applies: the requested one, or any if there is none. -/
def echoedOrigin (origin : Option String) : String :=
  (origin.filter (· ≠ "")).getD anyOrigin

/-- The origin granted by a list of origins: a listed one is echoed, any other request gets the
first of the list. -/
def listedOrigin (first : String) (origins : List String) (origin : Option String) : String :=
  match normalizeOrigin origin with
  | some requested => if requested ∈ origins then requested else first
  | none => first

/-- The origin that a response grants access to. -/
def allowedOrigin (policy origin : Option String) : String :=
  match policy with
  | none => echoedOrigin origin
  | some policy =>
      if policy = anyOrigin then
        if isNullOrigin origin then anyOrigin else origin.getD anyOrigin
      else
        match listedOrigins policy with
        | [] => echoedOrigin origin
        | first :: rest => listedOrigin first (first :: rest) origin

end FlowGate.Cors
