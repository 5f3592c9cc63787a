import FlowGate.Json.Reader
import FlowGate.Server.Basic

/-!
# Starting the server

A server starts with the signer of its configuration and, if a seed file is named, with the content
of that file in its stores.
-/

namespace FlowGate

/-- Reads a seed file; `none` is a file that cannot be read. -/
def Seed.ofFile (file : Option (List UInt8)) : Except SeedError Seed :=
  match file.bind Text.Utf8.decode? with
  | none => .error .io
  | some text =>
      match (Json.read? text).bind Seed.ofJson? with
      | some seed => .ok seed
      | none => .error .parse

/-- Why a server does not start. -/
inductive StartError where
  /-- There is no usable secret. -/
  | signer (error : SignerError)
  /-- The seed cannot be used. -/
  | seed (error : SeedError)
  deriving DecidableEq

/-- The stores to start with: empty ones, or those of a seed file if one is named. -/
def Stores.start : Option (Option (List UInt8)) → Except SeedError Stores
  | none => .ok .empty
  | some file => do return Stores.empty.load (← Seed.ofFile file)

/-- Starts a server. -/
def Server.start (config : Config) (unknownSecret : List UInt8)
    (seedFile : Option (Option (List UInt8))) : Except StartError (Server × Stores) := do
  let server ← (Server.ofConfig config unknownSecret).mapError .signer
  let stores ← (Stores.start seedFile).mapError .seed
  return (server, stores)

end FlowGate
