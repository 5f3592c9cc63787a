import FlowGate.Text.Basic
import FlowGate.Text.Hex
import FlowGate.Text.Utf8

/-!
# Percent-encoding and form data

In a URL a byte may be written as a percent sign and two hexadecimal digits. `decodeSegment?`
reads a path segment and `formPairs` a query string in the form `a=1&b=2`, where a plus sign is a
space. A percent sign without two digits stands for itself.
-/

namespace FlowGate.Text.Percent

/-- The number an ASCII byte stands for as a hexadecimal digit. -/
def byteDigit? (byte : UInt8) : Option Nat := Hex.digitValue? (Char.ofNat byte.toNat)

/-- Replaces each escape by the byte it stands for. -/
def decodeBytes : List UInt8 → List UInt8
  | byte :: first :: second :: rest =>
      if byte = 0x25 then
        match byteDigit? first, byteDigit? second with
        | some high, some low => UInt8.ofNat (high * 16 + low) :: decodeBytes rest
        | _, _ => byte :: decodeBytes (first :: second :: rest)
      else byte :: decodeBytes (first :: second :: rest)
  | bytes => bytes

/-- The text of a path segment; `none` when its bytes are not UTF-8. -/
def decodeSegment? (segment : String) : Option String :=
  Utf8.decode? (decodeBytes (Utf8.encode segment))

/-- The text of a form component, where a plus sign is a space and ill-formed bytes are replaced. -/
def decodeComponent (component : String) : String :=
  let spaced := String.ofList (component.toList.map fun c ↦ if c = '+' then ' ' else c)
  Utf8.decodeLossy (decodeBytes (Utf8.encode spaced))

/-- The name and value of one piece of form data; a piece without `=` has an empty value. -/
def formPair (piece : String) : String × String :=
  match splitOnce? '=' piece with
  | some (name, value) => (decodeComponent name, decodeComponent value)
  | none => (decodeComponent piece, "")

/-- The names and values of a query string, in order. -/
def formPairs (query : String) : List (String × String) :=
  ((splitOn '&' query).filter (!·.isEmpty)).map formPair

end FlowGate.Text.Percent
