import FlowGate.Json.Printer
import FlowGate.Server.Basic

/-!
# Printing signed URLs

The command that prints a signed URL which resumes an execution.
-/

namespace FlowGate.SignUrl

/-- Why no URL can be printed. -/
inductive Failure where
  /-- There is no secret to sign with. -/
  | noSecret
  /-- The secret cannot be used. -/
  | signer (error : SignerError)
  /-- The URL cannot be made. -/
  | url (executionId : String) (cause : WebhookError)

namespace Failure

/-- The text of the failure. -/
def message : Failure → String
  | .noSecret =>
      "no signature secret configured; set webhooks.signature_secret or WAYPOST_SIGNATURE_SECRET"
  | .signer error => error.message
  | .url id _ => s!"cannot sign resume URL for execution '{id}'"

/-- The text of what caused the failure. -/
def cause? : Failure → Option String
  | .url _ cause => some cause.message
  | _ => none

/-- The failure as it is printed, with the lines of its cause indented. -/
def report (failure : Failure) : String :=
  let cause := match failure.cause? with
    | some cause => "\n\nCaused by:\n    " ++ String.intercalate "\n    " (Text.splitOn '\n' cause)
    | none => ""
  s!"Error: {failure.message}{cause}\n"

end Failure

/-- The signed URL that resumes an execution, on a given base or on the configured one. -/
def signedUrl (config : Config) (executionId : String) (suffix baseUrl : Option String) :
    Except Failure String :=
  if config.webhooks.signatureSecret.isNone then .error .noSecret
  else
    match Server.ofConfig config [] with
    | .error error => .error (.signer error)
    | .ok server =>
        let base := baseUrl.getD config.baseUrl
        match (server.waiting 0).resumeUrl base executionId suffix with
        | .ok url => .ok url
        | .error cause => .error (.url executionId cause)

/-- What is printed for a URL, for people or for programs. -/
def output (json : Bool) (executionId url : String) : String :=
  if json then
    (Json.object [("execution_id", .string executionId), ("url", .string url)]).pretty ++ "\n"
  else s!"\n  🔗 Resume URL for execution {executionId}\n\n  {url}\n\n"

end FlowGate.SignUrl
