import FlowGate.Text.Basic

/-!
# Request methods

The methods a webhook can be called with. `Method.parse` reads a name in any case of its letters,
and `Method.ofName?` reads exactly the names that `Method.name` writes.
-/

namespace FlowGate

/-- A method of a request. -/
inductive Method where
  | delete
  | get
  | head
  | patch
  | post
  | put
  | options
  deriving DecidableEq

/-- A name that is no method, in capital letters. -/
structure UnsupportedMethod where
  name : String
  deriving DecidableEq

/-- The text of the error. -/
def UnsupportedMethod.message (error : UnsupportedMethod) : String :=
  s!"unsupported HTTP method: '{error.name}'"

namespace Method

/-- The name of a method. -/
def name : Method → String
  | .delete => "DELETE"
  | .get => "GET"
  | .head => "HEAD"
  | .patch => "PATCH"
  | .post => "POST"
  | .put => "PUT"
  | .options => "OPTIONS"

/-- Every method. -/
def all : List Method := [.delete, .get, .head, .patch, .post, .put, .options]

/-- The method of a name in capital letters. -/
def ofName? : String → Option Method
  | "DELETE" => some .delete
  | "GET" => some .get
  | "HEAD" => some .head
  | "PATCH" => some .patch
  | "POST" => some .post
  | "PUT" => some .put
  | "OPTIONS" => some .options
  | _ => none

/-- The method of a name in which the case of ASCII letters does not matter. -/
def parse (text : String) : Except UnsupportedMethod Method :=
  match ofName? (Text.uppercase text) with
  | some method => .ok method
  | none => .error ⟨Text.uppercase text⟩

@[simp]
theorem ofName?_name (method : Method) : ofName? method.name = some method := by
  cases method <;> rfl

/-- A method is read from its own name. -/
@[simp]
theorem parse_name (method : Method) : parse method.name = .ok method := by
  cases method <;> rfl

end Method

end FlowGate
