import FlowGate.Http.Pattern
import FlowGate.Text.Percent

/-!
# Routes

A route is a pattern with what it leads to. A path is compared with the patterns as it was sent;
only the values of parameters are percent-decoded, and only afterwards, so an encoded slash does
not end a segment. `readParameters` decodes them and picks those that an endpoint asks for.
-/

namespace FlowGate.Http

/-- The segments of a path, which begins with a slash. -/
def segments? (path : String) : Option (List String) :=
  match Text.splitOn '/' path with
  | "" :: first :: rest => some (first :: rest)
  | _ => none

/-- A route with what it leads to. -/
structure Route (α : Type) where
  pattern : Pattern
  endpoint : α

/-- The better of a route found so far and one more route for the same path. -/
def chooseRoute {α : Type} (segments : List String) (best : Option (Route α × Parameters))
    (route : Route α) : Option (Route α × Parameters) :=
  match route.pattern.match? segments, best with
  | none, best => best
  | some parameters, none => some (route, parameters)
  | some parameters, some (other, values) =>
      if route.pattern.precedes other.pattern then some (route, parameters)
      else some (other, values)

/-- The endpoint for a path, with the encoded values of the parameters. -/
def findRoute? {α : Type} (routes : List (Route α)) (path : String) : Option (α × Parameters) := do
  let segments ← segments? path
  let (route, parameters) ← routes.foldl (chooseRoute segments) none
  return (route.endpoint, parameters)

/-- Why the parameters of a path cannot be used. -/
inductive ParameterError where
  /-- The value of a parameter is not UTF-8. -/
  | unreadable (name : String)
  /-- The pattern has a parameter twice. -/
  | repeated (name : String)
  /-- The pattern does not have a parameter. -/
  | missing (name : String)
  deriving DecidableEq

/-- The text of the error. -/
def ParameterError.message : ParameterError → String
  | .unreadable name => s!"Invalid URL: Invalid UTF-8 in `{name}`"
  | .repeated name => s!"Invalid URL: duplicate field `{name}`"
  | .missing name => s!"Invalid URL: missing field `{name}`"

/-- The beginnings of reserved names: a parameter with such a name only takes part in the comparison
with a path. -/
def reservedPrefixes : List String :=
  ["__private__axum_nest_tail_param", "__private__axum_fallback"]

/-- Whether a name is reserved, so that the value of the parameter is never decoded. -/
def isReserved (name : String) : Bool :=
  reservedPrefixes.any fun reserved ↦ (Text.dropPrefix? reserved name).isSome

/-- Decodes the values of parameters. -/
def decodeParameters : Parameters → Except ParameterError Parameters
  | [] => .ok []
  | (name, segment) :: rest =>
      match Text.Percent.decodeSegment? segment with
      | none => .error (.unreadable name)
      | some value => do return (name, value) :: (← decodeParameters rest)

/-- The first name of a list that stands there already, or is one of those seen before. -/
def firstRepeated? (seen : List String) : List String → Option String
  | [] => none
  | name :: rest => if name ∈ seen then some name else firstRepeated? (name :: seen) rest

/-- The values of a required parameter and, if one is named, of an optional parameter. Each may
occur only once; other parameters only have to be readable, and reserved ones not even that. -/
def readParameters (required : String) (optional : Option String) (parameters : Parameters) :
    Except ParameterError (String × Option String) := do
  let parameters ← decodeParameters (parameters.filter fun entry ↦ !isReserved entry.1)
  let names := (parameters.map (·.1)).filter fun name ↦ name = required ∨ some name = optional
  match firstRepeated? [] names, parameters.lookup required with
  | some name, _ => .error (.repeated name)
  | none, none => .error (.missing required)
  | none, some value => return (value, optional.bind fun name ↦ parameters.lookup name)

end FlowGate.Http
