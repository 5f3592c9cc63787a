import FlowGate.Resume.Call
import FlowGate.Text.Basic
import FlowGate.Workflow.Node

/-!
# Webhook catalog

The webhooks that the known kinds of waiting nodes offer. A wait node offers one webhook, or two
when it waits for a form; a tool that waits for a human offers two on the bare path.
-/

namespace FlowGate

/-- Whether a node type is one of the tools that wait for a human. -/
def isHumanToolType (nodeType : String) : Bool := "HitlTool".toList.isSuffixOf nodeType.toList

namespace WebhookCatalog

/-- The type of the node that waits. -/
def waitNodeType : String := "waypost.wait"

/-- A webhook of a node that resumes the execution. -/
def restart (node : Node) (path : String) (method : Method) : WebhookDescriptor :=
  ⟨method, path, node.name, true⟩

/-- The path suffix of a wait node, without slashes around it. -/
def waitSuffix (node : Node) : String :=
  ((node.textParameter? "options.webhookSuffix").map Text.trimSlashes).getD ""

/-- The methods a wait node can be called with. -/
def waitMethods (node : Node) : List Method :=
  match (node.textParameter? "resume").getD "webhook" with
  | "webhook" =>
      match node.textParameter? "httpMethod" with
      | some name => (Method.parse name).toOption.toList
      | none => [.get]
  | "form" => [.get, .post]
  | _ => []

/-- The webhooks of a node. -/
def webhooks (node : Node) : List WebhookDescriptor :=
  if node.type = waitNodeType then (waitMethods node).map (restart node (waitSuffix node))
  else if isHumanToolType node.type then [restart node "" .get, restart node "" .post]
  else []

end WebhookCatalog

end FlowGate
