import FlowGate.Text.Utf8
import FlowGate.Toml.Reader

/-!
# Configuration

Where the server listens, the routes and tokens of waiting executions, and the form of log lines.
Everything has a default. A configuration file is a TOML document in UTF-8; one that is missing or
cannot be read counts as one that configures nothing. A secret from the environment replaces the one
in the configuration unless it is empty.
-/

namespace FlowGate

/-- Where the server listens. -/
@[ext]
structure ListenConfig where
  host : String
  port : UInt16
  deriving DecidableEq

/-- The routes and tokens of waiting executions. -/
@[ext]
structure WebhookConfig where
  /-- The first segments of the paths of waiting executions. -/
  waitingPrefix : String
  /-- The secret that tokens are computed with. -/
  signatureSecret : Option String
  /-- The base of the URLs that are handed out. -/
  baseUrl : Option String
  deriving DecidableEq

/-- The form of log lines. -/
@[ext]
structure LoggingConfig where
  /-- Whether log lines are documents. -/
  json : Bool
  /-- Whether spans are exported. -/
  otel : Bool
  deriving DecidableEq

/-- The configuration of the server. -/
@[ext]
structure Config where
  server : ListenConfig
  webhooks : WebhookConfig
  logging : LoggingConfig
  deriving DecidableEq

/-- The place to listen when none is configured. -/
def ListenConfig.default : ListenConfig := ⟨"127.0.0.1", 5678⟩

/-- The routes and tokens when none are configured. -/
def WebhookConfig.default : WebhookConfig := ⟨"webhook-waiting", none, none⟩

/-- The form of log lines when none is configured. -/
def LoggingConfig.default : LoggingConfig := ⟨false, false⟩

/-- The configuration when nothing is configured. -/
def Config.default : Config := ⟨.default, .default, .default⟩

instance : Inhabited Config := ⟨.default⟩

namespace ListenConfig

/-- Reads where to listen. -/
def ofJson? (json : Json) : Option ListenConfig := do
  let field ← json.leadingRecord? ["host", "port"]
  let host ← Json.withDefault ListenConfig.default.host Json.string? (field "host")
  let port ← Json.withDefault ListenConfig.default.port Json.uint16? (field "port")
  return ⟨host, port⟩

/-- The place to listen as a document. -/
def toJson (config : ListenConfig) : Json :=
  .object [("host", .string config.host), ("port", .ofNat config.port.toNat)]

end ListenConfig

namespace WebhookConfig

/-- Reads the routes and tokens. -/
def ofJson? (json : Json) : Option WebhookConfig := do
  let field ← json.leadingRecord? ["waiting_prefix", "signature_secret", "base_url"]
  let waitingPrefix ←
    Json.withDefault WebhookConfig.default.waitingPrefix Json.string? (field "waiting_prefix")
  let signatureSecret ← Json.optional Json.string? (field "signature_secret")
  let baseUrl ← Json.optional Json.string? (field "base_url")
  return ⟨waitingPrefix, signatureSecret, baseUrl⟩

/-- The routes and tokens as a document. -/
def toJson (config : WebhookConfig) : Json :=
  .object <|
    [("waiting_prefix", .string config.waitingPrefix)] ++
    Json.omitNone "signature_secret" .string config.signatureSecret ++
    Json.omitNone "base_url" .string config.baseUrl

end WebhookConfig

namespace LoggingConfig

/-- Reads the form of log lines. -/
def ofJson? (json : Json) : Option LoggingConfig := do
  let field ← json.leadingRecord? ["json", "otel"]
  let lines ← Json.withDefault false Json.bool? (field "json")
  let otel ← Json.withDefault false Json.bool? (field "otel")
  return ⟨lines, otel⟩

/-- The form of log lines as a document. -/
def toJson (config : LoggingConfig) : Json :=
  .object [("json", .bool config.json), ("otel", .bool config.otel)]

end LoggingConfig

namespace Config

/-- Reads a configuration. -/
def ofJson? (json : Json) : Option Config := do
  let field ← json.leadingRecord? ["server", "webhooks", "logging"]
  let server ← Json.withDefault .default ListenConfig.ofJson? (field "server")
  let webhooks ← Json.withDefault .default WebhookConfig.ofJson? (field "webhooks")
  let logging ← Json.withDefault .default LoggingConfig.ofJson? (field "logging")
  return ⟨server, webhooks, logging⟩

/-- A configuration as a document. -/
def toJson (config : Config) : Json :=
  .object [("server", config.server.toJson), ("webhooks", config.webhooks.toJson),
    ("logging", config.logging.toJson)]

/-- A configuration with the secret of the environment, if there is one that is not empty. -/
def withSecret (config : Config) (secret : Option String) : Config :=
  match secret.filter (· ≠ "") with
  | some secret => { config with webhooks := { config.webhooks with signatureSecret := secret } }
  | none => config

/-- Reads the bytes of a configuration file. -/
def ofBytes? (bytes : List UInt8) : Option Config := do
  ofJson? (← Toml.read? (← Text.Utf8.decode? bytes))

/-- The configuration of a file, if there is one, and a secret of the environment, if there is
one. -/
def load (file : Option (List UInt8)) (secret : Option String) : Config :=
  ((file.bind ofBytes?).getD .default).withSecret secret

/-- The base of the URLs that are handed out: the configured one, or the place to listen. -/
def baseUrl (config : Config) : String :=
  config.webhooks.baseUrl.getD s!"http://{config.server.host}:{config.server.port}"

end Config

/-- The filter for log lines that a number of `-v` options asks for. -/
def verbosityDirective : Nat → String
  | 0 => "warn,waypost=info"
  | 1 => "info"
  | 2 => "debug"
  | _ => "trace"

end FlowGate
