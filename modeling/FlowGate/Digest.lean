/-!
# Digests

`Sha256.digest` computes the 32 bytes of the hash function SHA-256 of a message, and `Hmac.digest`
the message authentication code HMAC with it. The theorems `length_digest` say that both always
give 32 bytes.
-/

namespace FlowGate.Sha256

/-- The eight words that a block of the message changes. -/
structure State where
  a : UInt32
  b : UInt32
  c : UInt32
  d : UInt32
  e : UInt32
  f : UInt32
  g : UInt32
  h : UInt32

/-- The state before the first block. -/
def initial : State :=
  ⟨0x6a09e667, 0xbb67ae85, 0x3c6ef372, 0xa54ff53a, 0x510e527f, 0x9b05688c, 0x1f83d9ab, 0x5be0cd19⟩

/-- The constants of the 64 rounds. -/
def roundConstants : List UInt32 := [
  0x428a2f98, 0x71374491, 0xb5c0fbcf, 0xe9b5dba5, 0x3956c25b, 0x59f111f1, 0x923f82a4, 0xab1c5ed5,
  0xd807aa98, 0x12835b01, 0x243185be, 0x550c7dc3, 0x72be5d74, 0x80deb1fe, 0x9bdc06a7, 0xc19bf174,
  0xe49b69c1, 0xefbe4786, 0x0fc19dc6, 0x240ca1cc, 0x2de92c6f, 0x4a7484aa, 0x5cb0a9dc, 0x76f988da,
  0x983e5152, 0xa831c66d, 0xb00327c8, 0xbf597fc7, 0xc6e00bf3, 0xd5a79147, 0x06ca6351, 0x14292967,
  0x27b70a85, 0x2e1b2138, 0x4d2c6dfc, 0x53380d13, 0x650a7354, 0x766a0abb, 0x81c2c92e, 0x92722c85,
  0xa2bfe8a1, 0xa81a664b, 0xc24b8b70, 0xc76c51a3, 0xd192e819, 0xd6990624, 0xf40e3585, 0x106aa070,
  0x19a4c116, 0x1e376c08, 0x2748774c, 0x34b0bcb5, 0x391c0cb3, 0x4ed8aa4a, 0x5b9cca4f, 0x682e6ff3,
  0x748f82ee, 0x78a5636f, 0x84c87814, 0x8cc70208, 0x90befffa, 0xa4506ceb, 0xbef9a3f7, 0xc67178f2]

/-- Rotates a word to the right. -/
def rotate (word : UInt32) (count : UInt32) : UInt32 := word >>> count ||| word <<< (32 - count)

/-- The bytes of a message and its length, padded to whole blocks of 64 bytes. -/
def pad (message : List UInt8) : List UInt8 :=
  let bits := message.length * 8
  let zeros := (119 - message.length % 64) % 64
  let lengthBytes := [56, 48, 40, 32, 24, 16, 8, 0].map fun shift ↦ UInt8.ofNat (bits >>> shift)
  message ++ 0x80 :: List.replicate zeros 0 ++ lengthBytes

/-- Bytes in groups of four, the highest first. -/
def wordsOf : List UInt8 → List UInt32
  | a :: b :: c :: d :: rest =>
      (a.toUInt32 <<< 24 ||| b.toUInt32 <<< 16 ||| c.toUInt32 <<< 8 ||| d.toUInt32) :: wordsOf rest
  | _ => []

/-- `schedule count window` lists the next `count` words of the message schedule, of which the
first sixteen are given. -/
def schedule : Nat → List UInt32 → List UInt32
  | 0, _ => []
  | count + 1, window =>
      let first := window.getD 0 0
      let low := window.getD 1 0
      let high := window.getD 14 0
      let next :=
        (rotate high 17 ^^^ rotate high 19 ^^^ high >>> 10) + window.getD 9 0 +
          (rotate low 7 ^^^ rotate low 18 ^^^ low >>> 3) + first
      first :: schedule count (window.drop 1 ++ [next])

/-- One round with the sum of its constant and its word of the schedule. -/
def round (state : State) (addend : UInt32) : State :=
  let ⟨a, b, c, d, e, f, g, h⟩ := state
  let first :=
    h + (rotate e 6 ^^^ rotate e 11 ^^^ rotate e 25) + (e &&& f ^^^ ~~~e &&& g) + addend
  let second := (rotate a 2 ^^^ rotate a 13 ^^^ rotate a 22) + (a &&& b ^^^ a &&& c ^^^ b &&& c)
  ⟨first + second, a, b, c, d + first, e, f, g⟩

/-- Takes in a block of sixteen words. -/
def compress (state : State) (block : List UInt32) : State :=
  let addends := List.zipWith (· + ·) roundConstants (schedule 64 block)
  let result := addends.foldl round state
  ⟨state.a + result.a, state.b + result.b, state.c + result.c, state.d + result.d,
    state.e + result.e, state.f + result.f, state.g + result.g, state.h + result.h⟩

/-- Takes in at most the given number of blocks. -/
def absorb : Nat → State → List UInt32 → State
  | 0, state, _ => state
  | _, state, [] => state
  | count + 1, state, words => absorb count (compress state (words.take 16)) (words.drop 16)

/-- The four bytes of a word, the highest first. -/
def bytesOf (word : UInt32) : List UInt8 :=
  [(word >>> 24).toUInt8, (word >>> 16).toUInt8, (word >>> 8).toUInt8, word.toUInt8]

/-- The 32 bytes of a state. -/
def State.bytes (state : State) : List UInt8 :=
  [state.a, state.b, state.c, state.d, state.e, state.f, state.g, state.h].flatMap bytesOf

/-- The digest of a message. -/
def digest (message : List UInt8) : List UInt8 :=
  let words := wordsOf (pad message)
  (absorb words.length initial words).bytes

/-- A digest has 32 bytes. -/
@[simp]
theorem length_digest (message : List UInt8) : (digest message).length = 32 := rfl

end FlowGate.Sha256

namespace FlowGate.Hmac

/-- The number of bytes of a block. -/
def blockSize : Nat := 64

/-- A key of the length of a block: a longer one is replaced by its digest, a shorter one is filled
up with zeros. -/
def blockKey (key : List UInt8) : List UInt8 :=
  let short := if blockSize < key.length then Sha256.digest key else key
  short ++ List.replicate (blockSize - short.length) 0

/-- The code of a message under a key. -/
def digest (key message : List UInt8) : List UInt8 :=
  let inner := Sha256.digest ((blockKey key).map (· ^^^ 0x36) ++ message)
  Sha256.digest ((blockKey key).map (· ^^^ 0x5c) ++ inner)

/-- A code has 32 bytes. -/
@[simp]
theorem length_digest (key message : List UInt8) : (digest key message).length = 32 := rfl

end FlowGate.Hmac
