import FlowGate.Text.Basic

/-!
# Request targets

What a request line names as its target: a path with a query, a whole URL, only a host with a port,
or an asterisk for the server as such. `Target.parse` finds the path and the query; the scheme and
the host of a URL do not matter, and a fragment is dropped.
-/

namespace FlowGate.Http

/-- The path and the query of a request. -/
@[ext]
structure Target where
  /-- The path as it was sent; empty when only a host was named. -/
  path : String
  /-- The part between the question mark and the fragment. -/
  query : String
  deriving DecidableEq

namespace Target

/-- Whether a character may stand in the scheme of a URL. -/
def isSchemeChar (c : Char) : Bool := c.isAlphanum || c = '+' || c = '-' || c = '.'

/-- The part of a URL behind its scheme. -/
def afterScheme? (url : List Char) : Option (List Char) :=
  match url.dropWhile isSchemeChar with
  | ':' :: '/' :: '/' :: rest => some rest
  | _ => none

/-- Whether a character ends the host of a URL. -/
def endsHost (c : Char) : Bool := c = '/' || c = '?' || c = '#'

/-- The target of a path with a query; an empty path is that of the root. -/
def ofPath (text : List Char) : Target :=
  let text := String.ofList (text.takeWhile (· ≠ '#'))
  let (path, query) := (Text.splitOnce? '?' text).getD (text, "")
  ⟨if path = "" then "/" else path, query⟩

/-- The path and the query of a target. -/
def parse (target : String) : Target :=
  if target = "*" then ⟨"*", ""⟩
  else
    match target.toList with
    | '/' :: rest => ofPath ('/' :: rest)
    | characters =>
        match afterScheme? characters with
        | some rest => ofPath (rest.dropWhile (!endsHost ·))
        | none => ⟨"", ""⟩

end Target

end FlowGate.Http
