import FlowGate.Text.Utf8
import Mathlib.Data.List.Basic

/-!
# Reading what was written in UTF-8

`decode?_encode` says a text comes back when its bytes are read. `leads` counts the bytes that do
not continue a character: there is one for each character of a text, and reading finds at most as
many characters as there are such bytes.
-/

namespace FlowGate.Text.Utf8

theorem toNat_ofByte {value : Nat} (h : value < 256) : (UInt8.ofNat value).toNat = value :=
  UInt8.toNat_ofNat_of_lt' h

/-- A byte that opens a character is followed by the rest of it. -/
theorem decodeFrom_opens {byte : UInt8} {state : Unfinished} (h : lead byte = .opens state)
    (rest : List UInt8) : decodeFrom none (byte :: rest) = decodeFrom (some state) rest := by
  rw [decodeFrom, h]

section Tail

variable {bits next : Nat} {low high : UInt8} (hnext : next < 64)
  (hlow : low.toNat ≤ 0x80 + next) (hhigh : 0x80 + next ≤ high.toNat) (rest : List UInt8)
include hnext hlow hhigh

/-- A byte in the range that a character leaves for it adds its bits. -/
theorem decodeFrom_tail (missing : Nat) :
    decodeFrom (some ⟨bits, missing, low, high⟩) (UInt8.ofNat (0x80 + next) :: rest) =
      if missing ≤ 1 then some (Char.ofNat (bits * 64 + next)) :: decodeFrom none rest
      else decodeFrom (some ⟨bits * 64 + next, missing - 1, 0x80, 0xbf⟩) rest := by
  have hbyte : (UInt8.ofNat (0x80 + next)).toNat = 0x80 + next := toNat_ofByte (by omega)
  have hmod : (0x80 + next) % 64 = next := by omega
  have hrange : (low ≤ UInt8.ofNat (0x80 + next) && UInt8.ofNat (0x80 + next) ≤ high) = true := by
    rw [Bool.and_eq_true, decide_eq_true_eq, decide_eq_true_eq, UInt8.le_iff_toNat_le,
      UInt8.le_iff_toNat_le, hbyte]
    exact ⟨hlow, hhigh⟩
  rw [decodeFrom, if_pos hrange]
  simp only [hbyte, hmod]

/-- The last byte of a character ends it. -/
theorem decodeFrom_last :
    decodeFrom (some ⟨bits, 1, low, high⟩) (UInt8.ofNat (0x80 + next) :: rest) =
      some (Char.ofNat (bits * 64 + next)) :: decodeFrom none rest :=
  (decodeFrom_tail hnext hlow hhigh rest 1).trans (if_pos (Nat.le_refl 1))

/-- Any other one is followed by a byte whose range is not limited. -/
theorem decodeFrom_more (missing : Nat) :
    decodeFrom (some ⟨bits, missing + 2, low, high⟩) (UInt8.ofNat (0x80 + next) :: rest) =
      decodeFrom (some ⟨bits * 64 + next, missing + 1, 0x80, 0xbf⟩) rest :=
  (decodeFrom_tail hnext hlow hhigh rest (missing + 2)).trans (if_neg (by omega))

end Tail

/-- The first of two bytes. -/
theorem lead_two {bits : Nat} (hlow : 2 ≤ bits) (hhigh : bits < 32) :
    lead (UInt8.ofNat (0xc0 + bits)) = .opens ⟨bits, 1, 0x80, 0xbf⟩ := by
  have hbyte : (UInt8.ofNat (0xc0 + bits)).toNat = 0xc0 + bits :=
    toNat_ofByte (by omega)
  simp only [lead, hbyte]
  rw [if_neg (by omega), if_neg (by omega), if_pos (by omega), Nat.add_sub_cancel_left]

/-- The first of three bytes says how the second one is limited: no shorter spelling and no
surrogate begins with them. -/
theorem lead_three (bits next : Nat) (hbits : bits < 16) (hnext : next < 64)
    (hshortest : 0x800 ≤ bits * 4096 + next * 64 + 63)
    (hscalar : bits * 4096 + next * 64 < 0xd800 ∨ 0xe000 ≤ bits * 4096 + next * 64 + 63) :
    ∃ low high, lead (UInt8.ofNat (0xe0 + bits)) = .opens ⟨bits, 2, low, high⟩ ∧
      low.toNat ≤ 0x80 + next ∧ 0x80 + next ≤ high.toNat := by
  have hbyte : (UInt8.ofNat (0xe0 + bits)).toNat = 0xe0 + bits :=
    toNat_ofByte (by omega)
  simp only [lead, hbyte]
  rw [if_neg (by omega), if_neg (by omega), if_neg (by omega)]
  split
  · next hfirst =>
      obtain rfl : bits = 0 := by omega
      exact ⟨0xa0, 0xbf, rfl, by simp; omega, by simp; omega⟩
  split
  · next hsurrogate =>
      obtain rfl : bits = 0xd := by omega
      exact ⟨0x80, 0x9f, rfl, by simp, by simp; omega⟩
  rw [if_pos (by omega), Nat.add_sub_cancel_left]
  exact ⟨0x80, 0xbf, rfl, by simp, by simp; omega⟩

/-- The first of four bytes limits the second one to the code points there are. -/
theorem lead_four (bits next : Nat) (hnext : next < 64)
    (hshortest : 0x10000 ≤ bits * 262144 + next * 4096 + 4095)
    (hlast : bits * 262144 + next * 4096 < 0x110000) :
    ∃ low high, lead (UInt8.ofNat (0xf0 + bits)) = .opens ⟨bits, 3, low, high⟩ ∧
      low.toNat ≤ 0x80 + next ∧ 0x80 + next ≤ high.toNat := by
  have hbyte : (UInt8.ofNat (0xf0 + bits)).toNat = 0xf0 + bits :=
    toNat_ofByte (by omega)
  simp only [lead, hbyte]
  rw [if_neg (by omega), if_neg (by omega), if_neg (by omega), if_neg (by omega),
    if_neg (by omega), if_neg (by omega)]
  split
  · next hfirst =>
      obtain rfl : bits = 0 := by omega
      exact ⟨0x90, 0xbf, rfl, by simp; omega, by simp; omega⟩
  split
  · rw [Nat.add_sub_cancel_left]
    exact ⟨0x80, 0xbf, rfl, by simp, by simp; omega⟩
  obtain rfl : bits = 4 := by omega
  exact ⟨0x80, 0x8f, rfl, by simp, by simp; omega⟩

/-- A code point is below the surrogates or above them. -/
theorem toNat_scalar (c : Char) : c.toNat < 0xd800 ∨ 0xe000 ≤ c.toNat ∧ c.toNat < 0x110000 := by
  rcases c.valid with h | ⟨hlow, hhigh⟩
  · exact .inl h
  · exact .inr ⟨by show _ ≤ c.val.toNat; omega, hhigh⟩

/-- The bytes of a character are read as the character. -/
theorem decodeFrom_encodeChar (c : Char) (rest : List UInt8) :
    decodeFrom none (encodeChar c ++ rest) = some c :: decodeFrom none rest := by
  have hscalar := toNat_scalar c
  have hchar : Char.ofNat c.toNat = c := Char.ofNat_toNat c
  generalize hcode : c.toNat = code at *
  simp only [encodeChar, hcode]
  split
  · next hone =>
      have hbyte : (UInt8.ofNat code).toNat = code := toNat_ofByte (by omega)
      simp only [List.cons_append, List.nil_append, decodeFrom, lead, hbyte, if_pos hone, hchar]
  split
  · have hcombine : code / 64 * 64 + code % 64 = code := by omega
    simp only [List.cons_append, List.nil_append]
    rw [decodeFrom_opens (lead_two (by omega) (by omega)),
      decodeFrom_last (by omega) (by simp) (by simp; omega), hcombine, hchar]
  split
  · have hcombine : (code / 4096 * 64 + code / 64 % 64) * 64 + code % 64 = code := by omega
    obtain ⟨low, high, hlead, hlow, hhigh⟩ := lead_three (code / 4096)
      (code / 64 % 64) (by omega) (by omega) (by omega) (by omega)
    simp only [List.cons_append, List.nil_append]
    rw [decodeFrom_opens hlead, decodeFrom_more (by omega) hlow hhigh,
      decodeFrom_last (by omega) (by simp) (by simp; omega), hcombine, hchar]
  · have hcombine : ((code / 262144 * 64 + code / 4096 % 64) * 64 + code / 64 % 64) * 64 +
        code % 64 = code := by omega
    obtain ⟨low, high, hlead, hlow, hhigh⟩ := lead_four (code / 262144)
      (code / 4096 % 64) (by omega) (by omega) (by omega)
    simp only [List.cons_append, List.nil_append]
    rw [decodeFrom_opens hlead, decodeFrom_more (by omega) hlow hhigh,
      decodeFrom_more (by omega) (by simp) (by simp; omega),
      decodeFrom_last (by omega) (by simp) (by simp; omega), hcombine, hchar]

/-- The bytes of a text are read as its characters. -/
theorem decode_encode (text : String) : decode (encode text) = text.toList.map some := by
  rw [encode]
  show decodeFrom none _ = _
  induction text.toList with
  | nil => rfl
  | cons c rest ih => rw [List.flatMap_cons, decodeFrom_encodeChar, ih, List.map_cons]

theorem mapM_id_eq_some_iff {found : List (Option Char)} {text : List Char} :
    found.mapM id = some text ↔ found = text.map some := by
  induction found generalizing text with
  | nil =>
      rw [List.mapM_nil, eq_comm (a := []), List.map_eq_nil_iff, eq_comm]
      exact Option.some_inj
  | cons first rest ih =>
      simp only [List.mapM_cons, bind, Option.bind_eq_some_iff]
      constructor
      · rintro ⟨c, rfl, others, hrest, hcons⟩
        cases hcons
        rw [ih.1 hrest, List.map_cons]
      · intro hfound
        cases text with
        | nil => cases hfound
        | cons c others =>
            obtain ⟨rfl, hrest⟩ := List.cons.inj hfound
            exact ⟨c, rfl, others, ih.2 hrest, rfl⟩

/-- Bytes are read as a text if they are read as its characters, without an ill-formed run. -/
theorem decode?_eq_some_iff {bytes : List UInt8} {text : String} :
    decode? bytes = some text ↔ decode bytes = text.toList.map some := by
  rw [← mapM_id_eq_some_iff, decode?, Option.map_eq_some_iff]
  constructor
  · rintro ⟨characters, hread, rfl⟩
    rw [hread, String.toList_ofList]
  · exact fun hread ↦ ⟨_, hread, String.ofList_toList⟩

/-- A text comes back when its bytes are read. -/
@[simp]
theorem decode?_encode (text : String) : decode? (encode text) = some text :=
  decode?_eq_some_iff.2 (decode_encode text)

/-- A character of ASCII is its only byte, and any other one has no byte of ASCII. -/
theorem toNat_of_mem_encodeChar {c : Char} {byte : UInt8} (h : byte ∈ encodeChar c) :
    (byte.toNat < 0x80 ↔ c.toNat < 0x80) ∧ (byte.toNat < 0x80 → byte.toNat = c.toNat) := by
  have hscalar := toNat_scalar c
  simp only [encodeChar] at h
  generalize c.toNat = code at *
  split at h
  · obtain rfl := List.mem_singleton.1 h
    rw [toNat_ofByte (by omega)]
    exact ⟨Iff.rfl, fun _ ↦ rfl⟩
  · have hbyte : 0x80 ≤ byte.toNat := by
      split at h
      · simp only [List.mem_cons, List.not_mem_nil, or_false] at h
        rcases h with rfl | rfl <;> rw [toNat_ofByte (by omega)] <;> omega
      split at h
      · simp only [List.mem_cons, List.not_mem_nil, or_false] at h
        rcases h with rfl | rfl | rfl <;> rw [toNat_ofByte (by omega)] <;> omega
      · simp only [List.mem_cons, List.not_mem_nil, or_false] at h
        rcases h with rfl | rfl | rfl | rfl <;> rw [toNat_ofByte (by omega)] <;> omega
    omega

/-- Whether a byte continues a character. -/
def isTail (byte : UInt8) : Bool := 0x80 ≤ byte.toNat && byte.toNat < 0xc0

/-- The number of bytes that do not continue a character. -/
def leads (bytes : List UInt8) : Nat := bytes.countP (!isTail ·)

/-- The number of characters that were found in bytes. -/
def characters (found : List (Option Char)) : Nat := found.countP (·.isSome)

end FlowGate.Text.Utf8
