import FlowGate.Http.Header
import FlowGate.Http.Target
import FlowGate.Json.Basic

/-!
# Requests and responses

An HTTP request as it was received, and a response. The header lines of a request keep their order
and may repeat a name; those of a response are set one by one.
-/

namespace FlowGate.Http

/-- A request. -/
structure Request where
  /-- The method as it was sent. -/
  method : String
  target : Target
  /-- The header lines in order. -/
  headers : List (String × String)
  body : List UInt8
  deriving DecidableEq

namespace Request

/-- The value of the first header line with a name, if it can be read. -/
def header? (request : Request) (name : String) : Option String :=
  ((request.headers.find? fun line ↦ Text.lowercase line.1 = Text.lowercase name).map (·.2)).filter
    HeaderList.isReadable

/-- The number of bytes up to which the body of a request is read. -/
def bodyLimit : Nat := 2097152

/-- Whether the body of a request is too long to be read. -/
def isTooLarge (request : Request) : Bool := bodyLimit < request.body.length

end Request

/-- What a response carries. -/
inductive Body where
  | empty
  | json (content : Json)
  | text (content : String)

/-- A response. -/
structure Response where
  status : UInt16
  headers : HeaderList
  body : Body

namespace Response

/-- The header that says what kind of body follows. -/
def contentTypeHeader : String := "content-type"

/-- The header that lists the methods of a route. -/
def allowHeader : String := "allow"

/-- A response without a body. -/
def empty (status : UInt16) : Response := ⟨status, .empty, .empty⟩

/-- A response with a document. -/
def json (status : UInt16) (content : Json) : Response :=
  ⟨status, .set .empty contentTypeHeader "application/json", .json content⟩

/-- A response with a plain text. -/
def text (status : UInt16) (content : String) : Response :=
  ⟨status, .set .empty contentTypeHeader "text/plain; charset=utf-8", .text content⟩

/-- A response with one more header. -/
def withHeader (response : Response) (name value : String) : Response :=
  { response with headers := response.headers.set name value }

/-- A response with the headers of a list on top of its own. -/
def withHeaders (response : Response) (headers : HeaderList) : Response :=
  { response with headers := headers.copyOnto response.headers }

/-- A response without its body; the headers that describe the body stay. -/
def withoutBody (response : Response) : Response := { response with body := .empty }

/-- The refusal of a request whose body is too long. -/
def tooLarge : Response :=
  text 413 "Failed to buffer the request body: length limit exceeded"

/-- The refusal of a method on a route that has only the given ones. -/
def methodNotAllowed (methods : String) : Response := (empty 405).withHeader allowHeader methods

end Response

end FlowGate.Http
