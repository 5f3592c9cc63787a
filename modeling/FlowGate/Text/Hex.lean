/-!
# Bytes in hexadecimal

`encode` writes each byte as two lower-case digits. `decode?` reads pairs of digits in either
case; in a pair a plus sign may stand for the first digit, as in a signed number of one digit.
-/

namespace FlowGate.Text.Hex

/-- The lower-case digit for a number below sixteen. -/
def digit (value : Nat) : Char :=
  if value < 10 then Char.ofNat ('0'.toNat + value) else Char.ofNat ('a'.toNat + (value - 10))

/-- The number a hexadecimal digit of either case stands for. -/
def digitValue? (c : Char) : Option Nat :=
  if '0' ≤ c ∧ c ≤ '9' then some (c.toNat - '0'.toNat)
  else if 'a' ≤ c ∧ c ≤ 'f' then some (c.toNat - 'a'.toNat + 10)
  else if 'A' ≤ c ∧ c ≤ 'F' then some (c.toNat - 'A'.toNat + 10)
  else none

/-- The two digits of a byte. -/
def encodeByte (byte : UInt8) : List Char :=
  [digit (byte.toNat / 16), digit (byte.toNat % 16)]

/-- Writes bytes as lower-case digits. -/
def encode (bytes : List UInt8) : String := String.ofList (bytes.flatMap encodeByte)

/-- The byte of a pair of characters: two digits, or a plus sign and a digit. -/
def pairValue? (first second : Char) : Option UInt8 := do
  let high ← if first = '+' then some 0 else digitValue? first
  let low ← digitValue? second
  return UInt8.ofNat (high * 16 + low)

/-- Reads a list of characters pair by pair. -/
def decodeList? : List Char → Option (List UInt8)
  | [] => some []
  | [_] => none
  | first :: second :: rest => do
      let byte ← pairValue? first second
      let bytes ← decodeList? rest
      return byte :: bytes

/-- Reads a text as pairs of digits; a text of odd length or with another character is refused. -/
def decode? (text : String) : Option (List UInt8) := decodeList? text.toList

end FlowGate.Text.Hex
