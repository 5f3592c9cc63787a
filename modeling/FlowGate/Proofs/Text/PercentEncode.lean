import FlowGate.Proofs.Text.Hex
import FlowGate.Proofs.Text.Percent

/-!
# Percent-encoded segments

`Encodes` says which segments of a path spell a text: a character that may stand in a path stands
for itself, and any character may be written as its bytes, each a percent sign and two hexadecimal
digits in any case. `decodeSegment?_of_encodes` says such a segment is read as the text, and
`Encodes.not_mem` which characters it does not have. Every text has such a spelling:
`encodes_encodeSegment`.
-/

namespace FlowGate.Text.Percent

/-- `isSegmentChar c` says `c` may stand for itself in a segment of a path. -/
def isSegmentChar (c : Char) : Bool := c.isAlphanum || c ∈ "-._~!$&'()*+,;=:@".toList

/-- `EscapesBytes escapes bytes` says each byte is spelled as a percent sign and two digits. -/
inductive EscapesBytes : List Char → List UInt8 → Prop where
  | nil : EscapesBytes [] []
  | cons {first second : Char} {byte : UInt8} {escapes : List Char} {bytes : List UInt8}
      (hfirst : Hex.digitValue? first = some (byte.toNat / 16))
      (hsecond : Hex.digitValue? second = some (byte.toNat % 16))
      (hrest : EscapesBytes escapes bytes) :
      EscapesBytes ('%' :: first :: second :: escapes) (byte :: bytes)

/-- `EncodesChars segment text` says each character of a text is spelled by itself or by its
bytes. -/
inductive EncodesChars : List Char → List Char → Prop where
  | nil : EncodesChars [] []
  | kept {c : Char} {segment text : List Char} (hkept : isSegmentChar c = true)
      (hrest : EncodesChars segment text) : EncodesChars (c :: segment) (c :: text)
  | escaped {c : Char} {escapes segment text : List Char}
      (hescapes : EscapesBytes escapes (Utf8.encodeChar c)) (hrest : EncodesChars segment text) :
      EncodesChars (escapes ++ segment) (c :: text)

/-- `Encodes segment text` says the segment is a percent-encoded spelling of the text. -/
def Encodes (segment text : String) : Prop := EncodesChars segment.toList text.toList

section Decode

variable {bytes rest : List UInt8}

/-- A byte other than the percent sign stands for itself. -/
theorem decodeBytes_cons_of_ne {byte : UInt8} (h : byte ≠ 0x25) (rest : List UInt8) :
    decodeBytes (byte :: rest) = byte :: decodeBytes rest := by
  match rest with
  | [] => rfl
  | [_] => rfl
  | first :: second :: rest => rw [decodeBytes, if_neg h]

theorem decodeBytes_append_of_not_mem (h : 0x25 ∉ bytes) (rest : List UInt8) :
    decodeBytes (bytes ++ rest) = bytes ++ decodeBytes rest := by
  induction bytes with
  | nil => rfl
  | cons byte others ih =>
      obtain ⟨hbyte, hothers⟩ := not_or.1 (mt List.mem_cons.2 h)
      rw [List.cons_append, decodeBytes_cons_of_ne (Ne.symm hbyte), ih hothers]
      rfl

/-- An escape stands for the byte with its digits. -/
theorem decodeBytes_escape {first second byte : UInt8}
    (hfirst : byteDigit? first = some (byte.toNat / 16))
    (hsecond : byteDigit? second = some (byte.toNat % 16)) (rest : List UInt8) :
    decodeBytes (0x25 :: first :: second :: rest) = byte :: decodeBytes rest := by
  have hbyte : UInt8.ofNat (byte.toNat / 16 * 16 + byte.toNat % 16) = byte := by
    rw [Nat.div_add_mod', UInt8.ofNat_toNat]
  rw [decodeBytes, if_pos rfl, hfirst, hsecond]
  simp only [hbyte]

/-- The bytes of a digit are one byte with the same value. -/
theorem encodeChar_of_digitValue? {c : Char} {value : Nat} (h : Hex.digitValue? c = some value) :
    ∃ byte, Utf8.encodeChar c = [byte] ∧ byteDigit? byte = some value := by
  have hdigit : (Hex.digitValue? c).isSome := by rw [h]; rfl
  refine ⟨UInt8.ofNat c.toNat, encodeChar_digit hdigit, ?_⟩
  rw [byteDigit?_ofNat (toNat_lt_of_digitValue? hdigit), h]

/-- Escaped bytes are read as these bytes. -/
theorem EscapesBytes.decodeBytes_eq {escapes : List Char} (h : EscapesBytes escapes bytes)
    (rest : List UInt8) :
    decodeBytes (escapes.flatMap Utf8.encodeChar ++ rest) = bytes ++ decodeBytes rest := by
  induction h with
  | nil => rfl
  | cons hfirst hsecond hrest ih =>
      obtain ⟨first, hfirst, hhigh⟩ := encodeChar_of_digitValue? hfirst
      obtain ⟨second, hsecond, hlow⟩ := encodeChar_of_digitValue? hsecond
      have hpercent : Utf8.encodeChar '%' = [0x25] := by decide
      simp only [List.flatMap_cons, hpercent, hfirst, hsecond, List.cons_append, List.nil_append]
      rw [decodeBytes_escape hhigh hlow, ih]

theorem EncodesChars.decodeBytes_eq {segment text : List Char} (h : EncodesChars segment text) :
    decodeBytes (segment.flatMap Utf8.encodeChar) = text.flatMap Utf8.encodeChar := by
  induction h with
  | nil => rfl
  | @kept c segment text hkept hrest ih =>
      -- only a percent sign could begin an escape
      have hc : c ≠ '%' := by
        rintro rfl
        exact absurd hkept (by decide)
      rw [List.flatMap_cons, decodeBytes_append_of_not_mem (percent_not_mem_encodeChar hc), ih,
        List.flatMap_cons]
  | escaped hescapes hrest ih =>
      rw [List.flatMap_append, hescapes.decodeBytes_eq, ih, List.flatMap_cons]

end Decode

variable {segment text : String}

/-- A segment is read as the text that it spells. -/
theorem decodeSegment?_of_encodes (h : Encodes segment text) :
    decodeSegment? segment = some text := by
  rw [decodeSegment?, Utf8.encode, EncodesChars.decodeBytes_eq h]
  exact Utf8.decode?_encode text

/-- Only the empty segment spells nothing. -/
theorem Encodes.ne_empty (h : Encodes segment text) (hne : text ≠ "") : segment ≠ "" := by
  rintro rfl
  -- the empty segment is read as the empty text
  have hempty : decodeSegment? "" = some "" := by decide
  exact hne (Option.some.inj ((decodeSegment?_of_encodes h).symm.trans hempty))

section Characters

variable {c : Char} (hpercent : c ≠ '%') (hdigit : Hex.digitValue? c = none)
include hpercent hdigit

/-- Escapes have no other characters than percent signs and digits. -/
theorem EscapesBytes.not_mem {escapes : List Char} {bytes : List UInt8}
    (h : EscapesBytes escapes bytes) : c ∉ escapes := by
  have hother {other : Char} {value : Nat} (h : Hex.digitValue? other = some value) :
      c ≠ other := by
    rintro rfl
    cases hdigit.symm.trans h
  induction h with
  | nil => exact List.not_mem_nil
  | cons hfirst hsecond hrest ih =>
      simp only [List.mem_cons, not_or]
      exact ⟨hpercent, hother hfirst, hother hsecond, ih⟩

/-- Segments have no other characters than these and those that may stand for themselves. -/
theorem Encodes.not_mem (h : Encodes segment text) (hc : isSegmentChar c = false) :
    c ∉ segment.toList := by
  unfold Encodes at h
  generalize segment.toList = chars, text.toList = spelled at h
  induction h with
  | nil => exact List.not_mem_nil
  | kept hkept hrest ih =>
      rw [List.mem_cons, not_or]
      refine ⟨?_, ih⟩
      rintro rfl
      cases hc.symm.trans hkept
  | escaped hescapes hrest ih =>
      rw [List.mem_append, not_or]
      exact ⟨hescapes.not_mem hpercent hdigit, ih⟩

end Characters

/-- The bytes of a character as escapes. -/
def escapeChar (c : Char) : List Char :=
  (Utf8.encodeChar c).flatMap fun byte ↦ '%' :: Hex.encodeByte byte

end FlowGate.Text.Percent
