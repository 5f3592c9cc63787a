import FlowGate.Json.Printer
import FlowGate.Json.Reader

/-!
# Strings in JSON texts

`readString_quoted` says that a text is read as it was written between quotes, whatever characters
it has. Each character is written as itself or as an escape, and either is read as one `Piece`
(`readPieces_escapeChar`) that stands for this character again (`charactersOf?_pieceOf`).
-/

namespace FlowGate.Json

/-- What a character is read as when it was written. -/
def pieceOf (c : Char) : Piece :=
  match c with
  | '"' | '\\' | '\x08' | '\x0c' | '\n' | '\r' | '\t' => .char c
  | c => if c < ' ' then .unit c.toNat else .char c

/-- The code of a control character is written with two digits. -/
theorem unitValue?_escapeDigit {code : Nat} (h : code < 32) :
    unitValue? (some '0') (some '0') (some (escapeDigit (code / 16)))
      (some (escapeDigit (code % 16))) = some code := by
  have hall : ∀ code ∈ List.range 32, unitValue? (some '0') (some '0')
      (some (escapeDigit (code / 16))) (some (escapeDigit (code % 16))) = some code := by decide
  exact hall code (List.mem_range.2 h)

theorem toNat_lt_of_lt_space {c : Char} (h : c < ' ') : c.toNat < 32 := h

/-- A character that was written is read as one piece. -/
theorem readPieces_escapeChar (c : Char) (pieces : List Piece) (rest : Input) :
    readPieces pieces ((escapeChar c).map some ++ rest) =
      readPieces (pieceOf c :: pieces) rest := by
  unfold escapeChar pieceOf
  split
  all_goals try rfl
  next hquote hslash _ _ _ _ _ =>
    by_cases hcontrol : c < ' '
    · have hunit := unitValue?_escapeDigit (toNat_lt_of_lt_space hcontrol)
      simp only [if_pos hcontrol]
      simp [readPieces, hunit]
    · have hstep : readPieces pieces (some c :: rest) = readPieces (.char c :: pieces) rest := by
        rw [readPieces]
        · exact if_neg (not_or.2 ⟨hcontrol, hslash⟩)
        · exact hquote
        · exact fun _ _ _ _ _ _ ↦ hslash
        · exact fun _ _ _ ↦ hslash
      simp only [if_neg hcontrol]
      exact hstep

theorem pieceOf_cases (c : Char) :
    pieceOf c = .char c ∨ c < ' ' ∧ pieceOf c = .unit c.toNat := by
  unfold pieceOf
  split
  all_goals try exact .inl rfl
  next =>
  split
  next hcontrol => exact .inr ⟨hcontrol, rfl⟩
  next => exact .inl rfl

theorem charactersOf?_char (c : Char) (pieces : List Piece) :
    charactersOf? (.char c :: pieces) = (charactersOf? pieces).map (c :: ·) := by
  cases h : charactersOf? pieces <;> simp [charactersOf?, h]

/-- The code of a control character is no surrogate. -/
theorem charactersOf?_unit {code : Nat} (h : code < 32) (pieces : List Piece) :
    charactersOf? (.unit code :: pieces) = (charactersOf? pieces).map (Char.ofNat code :: ·) := by
  have hhigh : isHighSurrogate code = false := by simp [isHighSurrogate]; omega
  have hlow : isLowSurrogate code = false := by simp [isLowSurrogate]; omega
  have hlone : charactersOf? (.unit code :: pieces) =
      (charactersOf? pieces).bind fun characters ↦ some (Char.ofNat code :: characters) := by
    -- two units may be a pair, but not with this one in front
    rcases pieces with _ | ⟨_ | _ | _, pieces⟩ <;> simp [charactersOf?, hhigh, hlow]
  rw [hlone]
  cases charactersOf? pieces <;> rfl

/-- A piece that a character was read as stands for this character. -/
theorem charactersOf?_pieceOf (c : Char) (pieces : List Piece) :
    charactersOf? (pieceOf c :: pieces) = (charactersOf? pieces).map (c :: ·) := by
  rcases pieceOf_cases c with hpiece | ⟨hcontrol, hpiece⟩
  · rw [hpiece, charactersOf?_char]
  · rw [hpiece, charactersOf?_unit (toNat_lt_of_lt_space hcontrol), Char.ofNat_toNat]

theorem charactersOf?_map_pieceOf (text : List Char) :
    charactersOf? (text.map pieceOf) = some text := by
  induction text with
  | nil => rfl
  | cons c text ih => rw [List.map_cons, charactersOf?_pieceOf, ih, Option.map_some]

/-- All characters of a text are read, up to the closing quote. -/
theorem readPieces_flatMap (text : List Char) (pieces : List Piece) (rest : Input) :
    readPieces pieces ((text.flatMap escapeChar).map some ++ some '"' :: rest) =
      some (pieces.reverse ++ text.map pieceOf, rest) := by
  induction text generalizing pieces with
  | nil => rw [List.map_nil, List.append_nil]; rfl
  | cons c text ih =>
      rw [List.flatMap_cons, List.map_append, List.append_assoc, readPieces_escapeChar, ih,
        List.reverse_cons, List.append_assoc]
      rfl

/-- A text behind its opening quote, with the closing quote and what follows it. -/
def quoted (text : String) (rest : Input) : Input :=
  (text.toList.flatMap escapeChar).map some ++ some '"' :: rest

/-- A text between quotes is read as the text. -/
theorem readString_quoted (text : String) (rest : Input) :
    readString (quoted text rest) = some (some text, rest) := by
  simp only [readString, quoted, readPieces_flatMap, Option.bind_eq_bind, Option.bind_some,
    Option.pure_def, List.reverse_nil, List.nil_append, charactersOf?_map_pieceOf,
    Option.map_some, String.ofList_toList]

end FlowGate.Json
