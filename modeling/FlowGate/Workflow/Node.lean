import FlowGate.Json.Value
import FlowGate.Text.Basic

/-!
# Workflow nodes

A node is one step of a workflow. Its parameters form a tree of objects, and `Node.parameter?`
follows a path of names between dots through that tree.
-/

namespace FlowGate

/-- The connection under which the output of a node is logged. -/
inductive Connection where
  | main
  | aiTool
  deriving DecidableEq

/-- A step of a workflow. -/
@[ext]
structure Node where
  /-- The name, by which the workflow refers to the node. -/
  name : String
  /-- The full name of the node's type. -/
  type : String
  typeVersion : Binary64
  parameters : Table Value
  disabled : Bool
  /-- The connection that takes the output in place of the main one. -/
  rewireOutputLogTo : Option Connection

/-- Follows names through nested objects. -/
def Json.descend? (json : Json) : List String → Option Json
  | [] => some json
  | name :: rest => (json.member? name).bind (·.descend? rest)

namespace Node

/-- The value at the end of a list of names. -/
def parameterAt? (node : Node) : List String → Option Json
  | [] => none
  | name :: rest => (node.parameters.get? name).bind (·.json.descend? rest)

/-- The parameter at a path of names between dots. -/
def parameter? (node : Node) (path : String) : Option Json :=
  node.parameterAt? (Text.splitOn '.' path)

/-- The parameter at a path, if it is a non-empty text. -/
def textParameter? (node : Node) (path : String) : Option String :=
  match node.parameter? path with
  | some (.string text) => if text = "" then none else some text
  | _ => none

/-- The version of a node type when none is given. -/
def defaultTypeVersion : Binary64 := .one

/-- The names of connections in stored nodes. -/
def connectionNames : List (String × Connection) := [("main", .main), ("ai_tool", .aiTool)]

/-- The name of a connection. -/
def connectionName : Connection → String
  | .main => "main"
  | .aiTool => "ai_tool"

/-- The fields of a stored node, in order. -/
def fieldNames : List String :=
  ["name", "type", "typeVersion", "parameters", "disabled", "rewireOutputLogTo"]

/-- Reads a stored node. -/
def ofJson? (json : Json) : Option Node := do
  let field ← json.record? fieldNames
  let name ← Json.required Json.string? (field "name")
  let type ← Json.required Json.string? (field "type")
  let typeVersion ← Json.withDefault defaultTypeVersion Json.real? (field "typeVersion")
  let parameters ← Json.withDefault .empty (Json.table? Json.toValue?) (field "parameters")
  let disabled ← Json.withDefault false Json.bool? (field "disabled")
  let rewire ← Json.optional (Json.choice? connectionNames) (field "rewireOutputLogTo")
  return ⟨name, type, typeVersion, parameters, disabled, rewire⟩

/-- A node as a document. -/
def toJson (node : Node) : Json :=
  .object <|
    [("name", .string node.name), ("type", .string node.type),
      ("typeVersion", .number (.real node.typeVersion)),
      ("parameters", Json.ofTable Value.json node.parameters),
      ("disabled", .bool node.disabled)] ++
    Json.omitNone "rewireOutputLogTo" (.string ∘ connectionName) node.rewireOutputLogTo

end Node

end FlowGate
