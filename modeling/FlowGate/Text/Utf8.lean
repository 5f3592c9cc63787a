/-!
# UTF-8

`encode` gives the bytes of a text. `decode` reads bytes that need not be well formed: each
character becomes `some`, and each longest run of bytes that starts a character without finishing
it becomes one `none`. `decode?` refuses ill-formed bytes and `decodeLossy` puts U+FFFD in their
place.
-/

namespace FlowGate.Text.Utf8

/-- The bytes of one character. -/
def encodeChar (c : Char) : List UInt8 :=
  let code := c.toNat
  if code < 0x80 then [UInt8.ofNat code]
  else if code < 0x800 then [UInt8.ofNat (0xc0 + code / 64), UInt8.ofNat (0x80 + code % 64)]
  else if code < 0x10000 then
    [UInt8.ofNat (0xe0 + code / 4096), UInt8.ofNat (0x80 + code / 64 % 64),
      UInt8.ofNat (0x80 + code % 64)]
  else
    [UInt8.ofNat (0xf0 + code / 262144), UInt8.ofNat (0x80 + code / 4096 % 64),
      UInt8.ofNat (0x80 + code / 64 % 64), UInt8.ofNat (0x80 + code % 64)]

/-- The bytes of a text. -/
def encode (text : String) : List UInt8 := text.toList.flatMap encodeChar

/-- A character of which some bytes have been read. -/
structure Unfinished where
  /-- The bits of the code point read so far. -/
  bits : Nat
  /-- The number of bytes that are still missing. -/
  missing : Nat
  /-- The least value the next byte may have. -/
  low : UInt8
  /-- The greatest value the next byte may have. -/
  high : UInt8

/-- What the first byte of a character says. -/
inductive Lead where
  /-- The byte is a character by itself. -/
  | whole (c : Char)
  /-- The byte opens a character of several bytes. -/
  | opens (state : Unfinished)
  /-- No character starts with the byte. -/
  | invalid

/-- Reads a byte as the first byte of a character. -/
def lead (byte : UInt8) : Lead :=
  let value := byte.toNat
  if value < 0x80 then .whole (Char.ofNat value)
  else if value < 0xc2 then .invalid
  else if value < 0xe0 then .opens ⟨value - 0xc0, 1, 0x80, 0xbf⟩
  else if value = 0xe0 then .opens ⟨0, 2, 0xa0, 0xbf⟩
  else if value = 0xed then .opens ⟨0xd, 2, 0x80, 0x9f⟩
  else if value < 0xf0 then .opens ⟨value - 0xe0, 2, 0x80, 0xbf⟩
  else if value = 0xf0 then .opens ⟨0, 3, 0x90, 0xbf⟩
  else if value < 0xf4 then .opens ⟨value - 0xf0, 3, 0x80, 0xbf⟩
  else if value = 0xf4 then .opens ⟨4, 3, 0x80, 0x8f⟩
  else .invalid

/-- `decodeFrom state bytes` reads bytes after the start of the character `state`, if there is
one. -/
def decodeFrom : Option Unfinished → List UInt8 → List (Option Char)
  | none, [] => []
  | some _, [] => [none]
  | none, byte :: rest =>
      match lead byte with
      | .whole c => some c :: decodeFrom none rest
      | .opens state => decodeFrom (some state) rest
      | .invalid => none :: decodeFrom none rest
  | some state, byte :: rest =>
      if state.low ≤ byte && byte ≤ state.high then
        let bits := state.bits * 64 + byte.toNat % 64
        if state.missing ≤ 1 then some (Char.ofNat bits) :: decodeFrom none rest
        else decodeFrom (some ⟨bits, state.missing - 1, 0x80, 0xbf⟩) rest
      else
        match lead byte with
        | .whole c => none :: some c :: decodeFrom none rest
        | .opens state => none :: decodeFrom (some state) rest
        | .invalid => none :: none :: decodeFrom none rest

/-- The characters of a byte list, with `none` for each ill-formed run. -/
def decode (bytes : List UInt8) : List (Option Char) := decodeFrom none bytes

/-- The text of well-formed bytes. -/
def decode? (bytes : List UInt8) : Option String := ((decode bytes).mapM id).map String.ofList

/-- The text of any bytes, with U+FFFD for each ill-formed run. -/
def decodeLossy (bytes : List UInt8) : String :=
  String.ofList ((decode bytes).map (·.getD '\ufffd'))

end FlowGate.Text.Utf8
