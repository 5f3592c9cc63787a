import FlowGate.Http.Message
import FlowGate.Resume.Waiting
import FlowGate.Server.Envelope
import FlowGate.Trigger.Validation

/-!
# Failures

Why a request could not be answered, and the response that says so: each failure has a status, a
code for programs and a text.
-/

namespace FlowGate

/-- Why a request could not be answered. -/
inductive Failure where
  /-- A call on a waiting execution was refused. -/
  | webhook (error : WebhookError)
  /-- A trigger must not become live. -/
  | trigger (error : TriggerError)
  /-- What the request is about does not exist. -/
  | notFound (text : String)
  /-- The method is not one of the known ones. -/
  | methodNotAllowed (text : String)
  /-- The request is not well formed. -/
  | invalid (text : String)
  /-- The request could not be carried out. -/
  | internal (text : String)
  deriving DecidableEq

namespace Failure

/-- The status of the response. -/
def status : Failure → UInt16
  | .webhook (.notFound _) => 404
  | .webhook (.conflict _) => 409
  | .webhook (.unauthorized _) => 401
  | .webhook _ => 500
  | .trigger (.singleTrigger ..) => 409
  | .trigger (.parameterConflict _) => 409
  | .trigger (.repository _) => 500
  | .notFound _ => 404
  | .methodNotAllowed _ => 405
  | .invalid _ => 400
  | .internal _ => 500

/-- The code for programs. -/
def code : Failure → String
  | .webhook (.notFound _) => "NOT_FOUND"
  | .webhook (.conflict _) => "CONFLICT"
  | .webhook (.unauthorized _) => "UNAUTHORIZED"
  | .webhook _ => "INTERNAL_ERROR"
  | .trigger (.singleTrigger ..) => "SINGLE_TRIGGER"
  | .trigger (.parameterConflict _) => "TRIGGER_PARAMETER_CONFLICT"
  | .trigger (.repository _) => "INTERNAL_ERROR"
  | .notFound _ => "NOT_FOUND"
  | .methodNotAllowed _ => "METHOD_NOT_ALLOWED"
  | .invalid _ => "VALIDATION_ERROR"
  | .internal _ => "INTERNAL_ERROR"

/-- The text of the failure. -/
def message : Failure → String
  | .webhook error => error.message
  | .trigger error => error.message
  | .notFound text => text
  | .methodNotAllowed text => text
  | .invalid text => text
  | .internal text => text

/-- The particulars of a trigger that must not become live. -/
def details : Failure → Option Value
  | .trigger (.singleTrigger nodeName nodeType) =>
      some (.ofTexts (.ofList [("node_name", nodeName), ("node_type", nodeType)]))
  | .trigger (.parameterConflict conflict) =>
      some (.ofTexts (.ofList
        [("node_name", conflict.nodeName), ("node_type", conflict.nodeType),
          ("key", conflict.key), ("conflicting_workflow_id", conflict.workflowId),
          ("conflicting_workflow_name", conflict.workflowName)]))
  | _ => none

/-- The failure as an entry of an answer. -/
def detail (failure : Failure) : ErrorDetail := ⟨failure.code, failure.message, failure.details⟩

/-- The response that reports a failure. -/
def response (failure : Failure) (requestId timestamp : String) : Http.Response :=
  .json failure.status (Envelope.failure failure.detail requestId timestamp).toJson

end Failure

end FlowGate
