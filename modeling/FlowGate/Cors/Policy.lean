import FlowGate.Cors.Origin
import FlowGate.Http.Header
import FlowGate.Http.Method

/-!
# Cross-origin headers

The headers that tell a browser which pages of other origins may use a route. A preflight is a
request with the method OPTIONS, in which the browser announces the request it wants to make.
`applyHeaders` adds the headers for one request, and `applyFallbackHeaders` those of a route
without an origin policy.
-/

namespace FlowGate.Cors

/-- The header that names the origin access is granted to. -/
def allowOriginHeader : String := "access-control-allow-origin"

/-- The header that lists the methods of a route. -/
def allowMethodsHeader : String := "access-control-allow-methods"

/-- The header that lists the request headers a browser may send. -/
def allowHeadersHeader : String := "access-control-allow-headers"

/-- The header that says how long the answer to a preflight may be kept. -/
def maxAgeHeader : String := "access-control-max-age"

/-- The seconds for which the answer to a preflight may be kept. -/
def preflightMaxAge : Nat := 300

/-- The parts of a request that decide its cross-origin headers. -/
structure Request where
  method : Method
  /-- The origin of the page that makes the request. -/
  origin : Option String
  /-- The method that a preflight announces. -/
  announcedMethod : Option String
  /-- The headers that a preflight announces. -/
  announcedHeaders : Option String
  deriving DecidableEq

/-- The origins that a route admits; `none` is no policy. -/
structure AccessControl where
  allowedOrigins : Option String
  deriving DecidableEq

/-- How a route answers one request. -/
structure Policy where
  /-- The methods the route can be called with. -/
  allowedMethods : List Method
  /-- The origins the route admits, if it has a policy. -/
  accessControl : Option AccessControl
  isPreflight : Bool
  /-- The method the browser wants to use; without one the origin policy is not applied. -/
  requestedMethod : Option Method
  deriving DecidableEq

namespace Request

/-- Whether a request is a preflight. -/
def isPreflight (request : Request) : Bool := request.method = .options

/-- The method the browser wants to use: the announced one in a preflight, else the one of the
request. -/
def requestedMethod (request : Request) : Option Method :=
  if request.isPreflight then request.announcedMethod.bind fun name ↦ (Method.parse name).toOption
  else some request.method

end Request

/-- The origins that apply to a request. -/
def Policy.origins (policy : Policy) : Option String :=
  policy.requestedMethod.bind fun _ ↦ policy.accessControl.bind (·.allowedOrigins)

/-- The value of the header that lists methods; a preflight is always possible. -/
def methodList (methods : List Method) : String :=
  "OPTIONS, " ++ String.intercalate ", " (methods.map Method.name)

/-- Adds the headers for a request. -/
def applyHeaders (request : Request) (policy : Policy) (headers : HeaderList) : HeaderList :=
  let headers :=
    if policy.allowedMethods.isEmpty then headers
    else headers.set allowMethodsHeader (methodList policy.allowedMethods)
  let headers := headers.set allowOriginHeader (allowedOrigin policy.origins request.origin)
  if policy.isPreflight then
    let headers := headers.set maxAgeHeader (toString preflightMaxAge)
    match request.announcedHeaders with
    | some announced =>
        if announced = "" then headers else headers.set allowHeadersHeader announced
    | none => headers
  else headers

/-- Adds the headers for a request on a route without an origin policy. -/
def applyFallbackHeaders (request : Request) (allowedMethods : Option (List Method))
    (headers : HeaderList) : HeaderList :=
  applyHeaders request
    ⟨allowedMethods.getD [], none, request.isPreflight, request.requestedMethod⟩ headers

end FlowGate.Cors
