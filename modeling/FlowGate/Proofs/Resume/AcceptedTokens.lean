import FlowGate.Proofs.Resume.IssuedUrl

/-!
# The tokens that are accepted

The token for a text is a code in hexadecimal, and a token is checked by reading it back.
`accepted_tokens_spell_code` says which tokens pass: those that spell the code. Besides the code
itself, with letters of either case, these are the texts with a plus sign where a pair of its digits
begins with a zero.
-/

namespace FlowGate.UrlSigner

variable {secret : List UInt8} {signer : UrlSigner}

/-- A token is accepted if it is read as the code of the text. -/
theorem hmac_verify_iff (secret : List UInt8) (text token : String) :
    (hmac secret).verify text token = true ↔
      Text.Hex.decode? token = some (Hmac.digest secret (Text.Utf8.encode text)) :=
  decide_eq_true_iff

/-- A signer comes from a secret that is not empty. -/
theorem eq_hmac_of_hmac? (h : hmac? secret = .ok signer) : signer = hmac secret := by
  unfold hmac? at h
  split at h
  · cases h
  · exact (Except.ok.inj h).symm

/-- A token is accepted for a text exactly if it spells the code of the text. The accepted tokens
without a plus sign are this code, with letters of either case; there are no others exactly if no
byte of the code has a zero in front. -/
theorem accepted_tokens_spell_code (h : hmac? secret = .ok signer) (text : String) :
    (∀ token, signer.verify text token = true ↔
      Text.Hex.Spells token.toList (signer.sign text).toList) ∧
    (∀ token, Text.lowercase token = signer.sign text ↔
      signer.verify text token = true ∧ '+' ∉ token.toList) ∧
    ((∀ token, signer.verify text token = true ↔ Text.lowercase token = signer.sign text) ↔
      ∀ byte ∈ Hmac.digest secret (Text.Utf8.encode text), 16 ≤ byte) := by
  obtain rfl := eq_hmac_of_hmac? h
  have hsign : (hmac secret).sign text =
      Text.Hex.encode (Hmac.digest secret (Text.Utf8.encode text)) := rfl
  simp only [hmac_verify_iff, hsign]
  exact ⟨fun token ↦ Text.Hex.decode?_eq_some_iff, fun token ↦ Text.Hex.lowercase_eq_encode_iff,
    Text.Hex.decode?_iff_lowercase_iff⟩

/-- The code of a text under a secret, in which four bytes have a zero in front. -/
theorem digest_question :
    Hmac.digest (Text.Utf8.encode "Jefe") (Text.Utf8.encode "what do ya want for nothing?") =
      [0x5b, 0xdc, 0xc1, 0x46, 0xbf, 0x60, 0x75, 0x4e, 0x6a, 0x04, 0x24, 0x26, 0x08, 0x95, 0x75,
        0xc7, 0x5a, 0x00, 0x3f, 0x08, 0x9d, 0x27, 0x39, 0x83, 0x9d, 0xec, 0x58, 0xb9, 0x64, 0xec,
        0x38, 0x43] := by
  decide +kernel

/-- The code is accepted in capital letters, but it is not the only token that is. -/
theorem question_tokens_spell_code :
    ∃ signer, hmac? (Text.Utf8.encode "Jefe") = .ok signer ∧
      signer.verify "what do ya want for nothing?"
        "5BDCC146BF60754E6A042426089575C75A003F089D2739839DEC58B964EC3843" = true ∧
      ¬ ∀ token, signer.verify "what do ya want for nothing?" token = true ↔
        Text.lowercase token = signer.sign "what do ya want for nothing?" := by
  have hsigner : hmac? (Text.Utf8.encode "Jefe") = .ok (hmac (Text.Utf8.encode "Jefe")) :=
    hmac?_eq_ok (by decide)
  obtain ⟨_, hcode, hexact⟩ :=
    accepted_tokens_spell_code hsigner "what do ya want for nothing?"
  refine ⟨_, hsigner, ((hcode _).1 ?capitals).1, fun hall ↦ ?other⟩
  case capitals =>
    show _ = Text.Hex.encode _
    rw [digest_question]
    decide
  case other =>
    have hbytes := hexact.1 hall
    rw [digest_question] at hbytes
    exact absurd (hbytes 0x04 (by decide)) (by decide)

/-- A token with a plus sign is accepted, although it is not the code in letters of either case. -/
theorem plus_token_accepted :
    let token := "5bdcc146bf60754e6a+42426089575c75a003f089d2739839dec58b964ec3843"
    ∃ signer, hmac? (Text.Utf8.encode "Jefe") = .ok signer ∧
      signer.verify "what do ya want for nothing?" token = true ∧
      Text.lowercase token ≠ signer.sign "what do ya want for nothing?" := by
  intro token
  refine ⟨_, hmac?_eq_ok (by decide), ?accepted, fun heq ↦ ?differs⟩
  case accepted =>
    rw [hmac_verify_iff, digest_question]
    decide
  case differs =>
    exact absurd (Text.Hex.lowercase_eq_encode_iff.1 heq).2 (by decide)

end FlowGate.UrlSigner
