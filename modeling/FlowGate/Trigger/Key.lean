import FlowGate.Text.Quoted
import FlowGate.Workflow.Node

/-!
# Exclusive keys

A trigger may subscribe to a resource that only one consumer may own. Its `ExclusiveKey` consists
of the parameters that identify the resource. An `ExclusivityRegistry` says which node types own
such a resource and how the key of a node is found; `Node.keyAt?` finds it by reading parameters.
-/

namespace FlowGate

/-- The parameters, with their values, that identify an exclusive resource. -/
structure ExclusiveKey where
  fields : List (String × String)
  deriving DecidableEq

/-- The text of a key. -/
def ExclusiveKey.text (key : ExclusiveKey) : String :=
  String.intercalate ", " (key.fields.map fun field ↦ field.1 ++ "=" ++ field.2)

/-- The text of a parameter value: a non-empty text, a number or a truth value. -/
def ExclusiveKey.valueText? : Json → Option String
  | .string text => if text = "" then none else some text
  | .number value => some value.text
  | .bool value => some (if value then "true" else "false")
  | _ => none

/-- The text of the parameter at a path. -/
def Node.keyText? (node : Node) (path : String) : Option String :=
  (node.parameter? path).bind ExclusiveKey.valueText?

/-- The key that a list of parameter paths gives, if every one of them has a text. -/
def Node.keyAt? (node : Node) (paths : List String) : Option ExclusiveKey :=
  (paths.mapM fun path ↦ (node.keyText? path).map fun text ↦ (path, text)).map ExclusiveKey.mk

/-- A way to find the key of a node; `none` when the node is not fully configured. -/
abbrev KeyExtractor := Node → Option ExclusiveKey

/-- The ways to find the keys of nodes, by node type. -/
abbrev ExclusivityRegistry := Table KeyExtractor

namespace ExclusivityRegistry

/-- The type of the trigger that consumes a topic as a member of a group. -/
def kafkaTrigger : String := "waypost.kafkaTrigger"

/-- Registers how the keys of a node type are found in place of the earlier way. -/
def registerExtractor (registry : ExclusivityRegistry) (nodeType : String)
    (extractor : KeyExtractor) : ExclusivityRegistry :=
  registry.insert nodeType extractor

/-- Registers the parameter paths that give the keys of a node type. -/
def register (registry : ExclusivityRegistry) (nodeType : String) (paths : List String) :
    ExclusivityRegistry :=
  registry.registerExtractor nodeType (·.keyAt? paths)

/-- The node types that are known to own a resource. -/
def defaults : ExclusivityRegistry :=
  register .empty kafkaTrigger ["groupId", "topic"]

/-- Whether nodes of a type own a resource. -/
def isChecked (registry : ExclusivityRegistry) (nodeType : String) : Bool :=
  registry.contains nodeType

/-- The key of a node; `none` for a type that is not registered or an incomplete node. -/
def extractKey? (registry : ExclusivityRegistry) (node : Node) : Option ExclusiveKey :=
  (registry.get? node.type).bind fun extractor ↦ extractor node

/-- How a registry describes itself: by the node types that own a resource. -/
def description (registry : ExclusivityRegistry) : String :=
  let types := String.intercalate ", " (registry.keys.map Text.quoted)
  "ExclusivityRegistry \x7b checked_types: [" ++ types ++ "] \x7d"

end ExclusivityRegistry

end FlowGate
