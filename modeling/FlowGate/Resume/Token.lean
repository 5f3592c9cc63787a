import FlowGate.Digest
import FlowGate.Resume.Call
import FlowGate.Text.Basic
import FlowGate.Text.Hex
import FlowGate.Text.Utf8

/-!
# Resume tokens

A resume URL carries a token that is computed from the host and the path of the URL, so that a URL
issued for one host is refused on another. `effectiveHost?` is the host a call was addressed to,
and `splitBaseUrl?` takes a base URL apart. A `UrlSigner` computes and checks tokens;
`UrlSigner.hmac?` is the one with a secret.
-/

namespace FlowGate

/-- The query parameter that carries the token. -/
def tokenParameter : String := "signature"

/-- A text without the blanks around it, unless nothing is left. -/
def nonBlank? (text : String) : Option String :=
  let trimmed := Text.trim text
  if trimmed = "" then none else some trimmed

/-- The first entry of a list between commas, if it is not blank. -/
def firstEntry? (list : String) : Option String := (Text.splitOn ',' list).head?.bind nonBlank?

/-- The host a call was addressed to: the first one that a proxy reports, else the one in the host
header. -/
def WebhookCall.effectiveHost? (call : WebhookCall) : Option String :=
  ((call.header? "x-forwarded-host").bind firstEntry?).or ((call.header? "host").bind nonBlank?)

/-- The text a token is computed from. -/
def signedText (host path : String) : String := host ++ path

/-- The scheme, the host and the path of a base URL. The path begins with a slash unless it is
empty, and slashes at its end are dropped. -/
def splitBaseUrl? (url : String) : Option (String × String × String) := do
  let (scheme, rest) ← Text.splitOnceAt? "://" url
  let host := String.ofList (rest.toList.takeWhile (!Text.isSlash ·))
  let path := String.ofList (rest.toList.dropWhile (!Text.isSlash ·))
  if scheme = "" ∨ host = "" then none
  else some (scheme, host, Text.trimEndBy Text.isSlash path)

/-- A way to compute and check tokens. -/
structure UrlSigner where
  sign : String → String
  /-- Whether a token, the second argument, is one for a text. -/
  verify : String → String → Bool

/-- A secret that cannot be used. -/
inductive SignerError where
  | emptySecret
  deriving DecidableEq

/-- The text of the error. -/
def SignerError.message : SignerError → String
  | .emptySecret => "signature secret must not be empty"

namespace UrlSigner

/-- The signer that authenticates texts with a secret and writes the code in hexadecimal. -/
def hmac (secret : List UInt8) : UrlSigner where
  sign text := Text.Hex.encode (Hmac.digest secret (Text.Utf8.encode text))
  verify text token := Text.Hex.decode? token = some (Hmac.digest secret (Text.Utf8.encode text))

/-- The signer with a secret that is not empty. -/
def hmac? (secret : List UInt8) : Except SignerError UrlSigner :=
  if secret = [] then .error .emptySecret else .ok (hmac secret)

/-- How a signer with a secret describes itself, without the secret. -/
def hmacDescription : String := "HmacUrlSigner \x7b .. \x7d"

end UrlSigner

end FlowGate
