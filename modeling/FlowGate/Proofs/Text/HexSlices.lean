import FlowGate.Proofs.Text.Hex
import FlowGate.Proofs.Text.Percent

/-!
# Hexadecimal read by byte offsets

`decodeBySlices` reads a text as `decode?` does, but cuts it at byte offsets: a text that is not
ASCII or has an odd size is refused, and then every slice of two bytes is read as a number. A slice
whose ends lie outside the text or inside a character does not exist, and the reading breaks off
there. `slice_eq_ok_iff` says which slices exist. `decodeBySlices_eq` says that no missing slice is
ever asked for, and `hexadecimal_exact` puts this together with what is written and read.
-/

namespace FlowGate.Text

/-- A slice that a text does not have: one of its ends lies outside the text or inside a
character. -/
structure MissingSlice where
  start : Nat
  stop : Nat

/-- The part of a text between two byte offsets. -/
def slice (text : String) (start stop : Nat) : Except MissingSlice String :=
  if h : String.Pos.Raw.IsValid text ⟨start⟩ ∧ String.Pos.Raw.IsValid text ⟨stop⟩ ∧
      start ≤ stop then
    .ok (text.slice ⟨⟨start⟩, h.1⟩ ⟨⟨stop⟩, h.2.1⟩ h.2.2).copy
  else .error ⟨start, stop⟩

/-- A slice exists if the text falls into parts of these sizes. -/
theorem slice_eq_ok_iff {text part : String} {start stop : Nat} :
    slice text start stop = .ok part ↔
      ∃ before after, text = before ++ part ++ after ∧ before.utf8ByteSize = start ∧
        (before ++ part).utf8ByteSize = stop := by
  unfold slice
  constructor
  · intro h
    split at h
    next hvalid =>
      obtain ⟨before, after, hfirst, hlast⟩ :=
        String.copy_slice_eq_iff_splits.1 ⟨hvalid.2.2, Except.ok.inj h⟩
      have hstart := congrArg String.Pos.Raw.byteIdx hfirst.offset_eq_rawEndPos
      have hstop := congrArg String.Pos.Raw.byteIdx hlast.offset_eq_rawEndPos
      exact ⟨before, after, hlast.eq_append, hstart.symm, hstop.symm⟩
    next => cases h
  · rintro ⟨before, after, rfl, rfl, rfl⟩
    have hstart : String.Pos.Raw.IsValid (before ++ part ++ after) ⟨before.utf8ByteSize⟩ :=
      String.Pos.Raw.isValid_iff_exists_append.2 ⟨before, part ++ after, String.append_assoc, rfl⟩
    have hstop : String.Pos.Raw.IsValid (before ++ part ++ after)
        ⟨(before ++ part).utf8ByteSize⟩ :=
      String.Pos.Raw.isValid_iff_exists_append.2 ⟨before ++ part, after, rfl, rfl⟩
    have hle : before.utf8ByteSize ≤ (before ++ part).utf8ByteSize := by
      rw [String.utf8ByteSize_append]
      exact Nat.le_add_right _ _
    have hfirst : String.Pos.Splits ⟨_, hstart⟩ before (part ++ after) := ⟨String.append_assoc, rfl⟩
    have hlast : String.Pos.Splits ⟨_, hstop⟩ (before ++ part) after := ⟨rfl, rfl⟩
    obtain ⟨_, hcopy⟩ := String.copy_slice_eq_iff_splits.2 ⟨before, after, hfirst, hlast⟩
    rw [dif_pos ⟨hstart, hstop, hle⟩, hcopy]

/-- Whether all characters of a text are ASCII. -/
def isAscii (text : String) : Bool := text.toList.all (·.toNat < 128)

/-- Each character of ASCII takes one byte. -/
theorem utf8ByteSize_of_ascii {text : List Char} (h : ∀ c ∈ text, c.toNat < 128) :
    (String.ofList text).utf8ByteSize = text.length := by
  induction text with
  | nil => rfl
  | cons c rest ih =>
      have hc : c.utf8Size = 1 := by
        have hcode := h c List.mem_cons_self
        rw [Char.utf8Size_eq_one_iff, UInt32.le_iff_toNat_le]
        show c.toNat ≤ 127
        omega
      rw [String.ofList_cons, String.utf8ByteSize_append, String.utf8ByteSize_singleton, hc,
        ih fun d hd ↦ h d (List.mem_cons_of_mem _ hd), List.length_cons, Nat.add_comm]

namespace Hex

/-- The number that digits stand for, the leading one first. -/
def digitsValue? (digits : List Char) : Option Nat :=
  digits.foldlM (fun value c ↦ (digitValue? c).map (value * 16 + ·)) 0

/-- Reads characters as a byte in base sixteen: digits, maybe with a plus sign in front. -/
def byteOfDigits? : List Char → Option UInt8
  | [] | ['+'] => none
  | text => do
      let value ← digitsValue? (if text.head? = some '+' then text.tail else text)
      if value < UInt8.size then some (.ofNat value) else none

/-- Reads the slices of two bytes at some offsets, up to the first that is not a byte. -/
def readSlices (text : String) : List Nat → Except MissingSlice (Option (List UInt8))
  | [] => return some []
  | offset :: offsets => do
      let pair ← slice text offset (offset + 2)
      match byteOfDigits? pair.toList with
      | none => return none
      | some byte => return (← readSlices text offsets).map (byte :: ·)

/-- Reads a text by its slices of two bytes. -/
def decodeBySlices (text : String) : Except MissingSlice (Option (List UInt8)) :=
  if isAscii text = false ∨ text.utf8ByteSize % 2 ≠ 0 then return none
  else readSlices text (List.range' 0 ((text.utf8ByteSize + 1) / 2) 2)

theorem digitValue?_lt {c : Char} {value : Nat} (h : digitValue? c = some value) : value < 16 :=
  (digitValue?_eq_some_iff.1 h).1

/-- Two characters are read as a pair of digits is. -/
theorem byteOfDigits?_pair (first second : Char) :
    byteOfDigits? [first, second] = pairValue? first second := by
  have hone (c : Char) : digitsValue? [c] = digitValue? c := by
    cases h : digitValue? c <;> simp [digitsValue?, h]
  have htwo (c d : Char) : digitsValue? [c, d] =
      (digitValue? c).bind fun high ↦ (digitValue? d).map (high * 16 + ·) := by
    cases h : digitValue? c <;> simp [digitsValue?, h]
  have hread : byteOfDigits? [first, second] =
      (digitsValue? (if first = '+' then [second] else [first, second])).bind fun value ↦
        if value < UInt8.size then some (.ofNat value) else none := by
    simp [byteOfDigits?]
  -- two digits stand for less than 256
  have hbyte {high low : Nat} (hhigh : high < 16) (hlow : low < 16) :
      high * 16 + low < UInt8.size := by
    show _ < 256
    omega
  rw [hread, pairValue?]
  by_cases hplus : first = '+'
  · rw [if_pos hplus, if_pos hplus, hone]
    cases hsecond : digitValue? second with
    | none => rfl
    | some low =>
        have hlow := hbyte (Nat.zero_lt_succ 15) (digitValue?_lt hsecond)
        rw [Nat.zero_mul, Nat.zero_add] at hlow
        simp [hlow]
  · rw [if_neg hplus, if_neg hplus, htwo]
    cases hfirst : digitValue? first with
    | none => rfl
    | some high =>
        cases hsecond : digitValue? second with
        | none => rfl
        | some low =>
            have hpair := hbyte (digitValue?_lt hfirst) (digitValue?_lt hsecond)
            simp [hpair]

variable {text : List Char} {bytes : List UInt8}

/-- Where the text is ASCII, its slices are its pairs of characters. -/
theorem readSlices_eq {before : List Char} (hascii : ∀ c ∈ before ++ text, c.toNat < 128)
    (heven : text.length % 2 = 0) :
    readSlices (String.ofList (before ++ text)) (List.range' before.length (text.length / 2) 2) =
      .ok (decodeList? text) := by
  fun_induction decodeList? text generalizing before with
  | case1 => rfl
  | case2 => cases heven
  | case3 first second rest ih =>
      have hoffsets : List.range' before.length ((first :: second :: rest).length / 2) 2 =
          before.length :: List.range' (before ++ [first, second]).length (rest.length / 2) 2 := by
        have hlength : (first :: second :: rest).length / 2 = rest.length / 2 + 1 := by
          simp only [List.length_cons]
          omega
        rw [hlength, List.range'_succ, List.length_append]
        rfl
      have hslice : slice (String.ofList (before ++ first :: second :: rest)) before.length
          (before.length + 2) = .ok (String.ofList [first, second]) := by
        have hbefore : ∀ c ∈ before, c.toNat < 128 := fun c hc ↦ hascii c (by simp [hc])
        have hpair : ∀ c ∈ before ++ [first, second], c.toNat < 128 := fun c hc ↦
          hascii c (by simp at hc ⊢; tauto)
        refine slice_eq_ok_iff.2 ⟨String.ofList before, String.ofList rest, ?_, ?_, ?_⟩
        · rw [← String.ofList_append, ← String.ofList_append, List.append_assoc]
          rfl
        · exact utf8ByteSize_of_ascii hbefore
        · rw [← String.ofList_append, utf8ByteSize_of_ascii hpair, List.length_append]
          rfl
      have hrest : readSlices (String.ofList (before ++ first :: second :: rest))
          (List.range' (before ++ [first, second]).length (rest.length / 2) 2) =
            .ok (decodeList? rest) := by
        have hsplit : before ++ first :: second :: rest = (before ++ [first, second]) ++ rest := by
          simp
        rw [hsplit] at hascii ⊢
        refine ih hascii ?_
        simp only [List.length_cons] at heven
        omega
      rw [hoffsets, readSlices, hslice, hrest]
      have hpair :
          byteOfDigits? (String.ofList [first, second]).toList = pairValue? first second := by
        rw [String.toList_ofList, byteOfDigits?_pair]
      simp only [bind, Except.bind, hpair]
      cases pairValue? first second <;> cases decodeList? rest <;> rfl

theorem toNat_lt_of_pairValue? {first second : Char} {byte : UInt8}
    (h : pairValue? first second = some byte) : first.toNat < 128 ∧ second.toNat < 128 := by
  have hbyte := byte.toNat_lt
  have hdigit {c : Char} {value : Nat} (hvalue : value < 16) (hc : c.toLower = digit value) :
      c.toNat < 128 := by
    refine Percent.toNat_lt_of_digitValue? ?_
    rw [digitValue?_eq_some_iff.2 ⟨hvalue, hc⟩]
    rfl
  obtain ⟨hfirst, hsecond⟩ := pairValue?_eq_some_iff.1 h
  refine ⟨?_, hdigit (by omega) hsecond⟩
  rcases hfirst with hfirst | ⟨rfl, _⟩
  · exact hdigit (by omega) hfirst
  · decide

/-- What is read is ASCII, with two characters for each byte. -/
theorem length_of_decodeList? (h : decodeList? text = some bytes) :
    text.length = 2 * bytes.length ∧ ∀ c ∈ text, c.toNat < 128 := by
  fun_induction decodeList? text generalizing bytes with
  | case1 =>
      cases h
      exact ⟨rfl, fun c hc ↦ absurd hc List.not_mem_nil⟩
  | case2 => cases h
  | case3 first second rest ih =>
      simp only [Option.bind_eq_bind, Option.bind_eq_some_iff, Option.pure_def,
        Option.some.injEq] at h
      obtain ⟨byte, hpair, others, hrest, rfl⟩ := h
      obtain ⟨hlength, hascii⟩ := ih hrest
      obtain ⟨hfirst, hsecond⟩ := toNat_lt_of_pairValue? hpair
      refine ⟨by simp only [List.length_cons]; omega, fun c hc ↦ ?_⟩
      rcases List.mem_cons.1 hc with rfl | hc
      · exact hfirst
      · rcases List.mem_cons.1 hc with rfl | hc
        · exact hsecond
        · exact hascii c hc

theorem isAscii_iff {text : String} : isAscii text = true ↔ ∀ c ∈ text.toList, c.toNat < 128 := by
  simp only [isAscii, List.all_eq_true, decide_eq_true_eq]

theorem utf8ByteSize_of_isAscii {text : String} (h : isAscii text = true) :
    text.utf8ByteSize = text.toList.length := by
  rw [← utf8ByteSize_of_ascii (isAscii_iff.1 h), String.ofList_toList]

/-- What is read is ASCII, with two bytes of text for each byte. -/
theorem size_of_decode? {text : String} (h : decode? text = some bytes) :
    isAscii text = true ∧ text.utf8ByteSize = 2 * bytes.length := by
  obtain ⟨hlength, hascii⟩ := length_of_decodeList? h
  have htext := isAscii_iff.2 hascii
  exact ⟨htext, (utf8ByteSize_of_isAscii htext).trans hlength⟩

/-- No slice is missing, and what is read is what the pairs of characters stand for. -/
theorem decodeBySlices_eq (text : String) : decodeBySlices text = .ok (decode? text) := by
  unfold decodeBySlices
  split
  next hrefused =>
    -- the reading succeeds only where the text is ASCII and its size is even
    cases hread : decode? text with
    | none => rfl
    | some bytes =>
        obtain ⟨hascii, hsize⟩ := size_of_decode? hread
        rcases hrefused with hnot | hodd
        · rw [hascii] at hnot
          cases hnot
        · omega
  next hpassed =>
    rw [not_or, Bool.not_eq_false, not_not] at hpassed
    obtain ⟨hascii, heven⟩ := hpassed
    have hsize := utf8ByteSize_of_isAscii hascii
    have hcount : (text.utf8ByteSize + 1) / 2 = text.toList.length / 2 := by omega
    have hread : readSlices (String.ofList ([] ++ text.toList))
        (List.range' 0 (text.toList.length / 2) 2) = .ok (decodeList? text.toList) :=
      readSlices_eq (isAscii_iff.1 hascii) (hsize ▸ heven)
    rw [List.nil_append, String.ofList_toList] at hread
    rw [hcount, hread, decode?]

/-- A slice may be missing where a text has an odd size or a character of two bytes. -/
example : readSlices "abc" [0, 2] = .error ⟨2, 4⟩ ∧ readSlices "aéb" [0, 2] = .error ⟨0, 2⟩ :=
  ⟨by cbv, by cbv⟩

/-- The digits that are written. -/
def digits : List Char := "0123456789abcdef".toList

theorem digit_mem_digits {value : Nat} (h : value < 16) : digit value ∈ digits := by
  have hall : ∀ value ∈ List.range 16, digit value ∈ digits := by decide
  exact hall value (List.mem_range.2 h)

/-- Small letters stay as they are, and a plus sign is no digit. -/
theorem lowercase_of_digits {text : String} (h : ∀ c ∈ text.toList, c ∈ digits) :
    lowercase text = text ∧ '+' ∉ text.toList := by
  have hlower : digits.all fun c ↦ c.toLower = c := by decide
  have hplus : '+' ∉ digits := by decide
  refine ⟨?_, fun hmem ↦ hplus (h _ hmem)⟩
  have hsame : ∀ c ∈ text.toList, c.toLower = c :=
    fun c hc ↦ of_decide_eq_true (List.all_eq_true.1 hlower c (h c hc))
  rw [lowercase, List.map_congr_left hsame, List.map_id', String.ofList_toList]

theorem mem_digits_of_encode {c : Char} (h : c ∈ (encode bytes).toList) : c ∈ digits := by
  rw [encode, String.toList_ofList] at h
  obtain ⟨byte, _, hc⟩ := List.mem_flatMap.1 h
  have hbyte := byte.toNat_lt
  rcases List.mem_cons.1 hc with rfl | hc
  · exact digit_mem_digits (by omega)
  · rw [List.mem_singleton.1 hc]
    exact digit_mem_digits (by omega)

/-- Bytes are written with two digits each and are read again. Every text is read without a missing
slice; if it stands for bytes it has twice their number, and if it has only digits as they are
written it is what is written for them. -/
theorem hexadecimal_exact :
    (∀ bytes, (encode bytes).utf8ByteSize = 2 * bytes.length ∧
      (∀ c ∈ (encode bytes).toList, c ∈ digits) ∧
      decodeBySlices (encode bytes) = .ok (some bytes)) ∧
    ∀ text, decodeBySlices text = .ok (decode? text) ∧
      ∀ bytes, decode? text = some bytes →
        text.utf8ByteSize = 2 * bytes.length ∧
        ((∀ c ∈ text.toList, c ∈ digits) → encode bytes = text) := by
  refine ⟨fun bytes ↦ ⟨?_, fun c hc ↦ mem_digits_of_encode hc, ?_⟩, fun text ↦
    ⟨decodeBySlices_eq text, fun bytes hread ↦ ⟨(size_of_decode? hread).2, fun hdigits ↦ ?_⟩⟩⟩
  · exact (size_of_decode? (decode?_encode bytes)).2
  · rw [decodeBySlices_eq, decode?_encode]
  · obtain ⟨hlower, hplus⟩ := lowercase_of_digits hdigits
    rw [← lowercase_eq_encode_iff.2 ⟨hread, hplus⟩, hlower]

/-- Digits are written again as they were read, and the character of two bytes in the other text is
refused before it is cut. -/
theorem small_digits_written_again :
    decode? "0aff" = some [0x0a, 0xff] ∧ (∀ c ∈ "0aff".toList, c ∈ digits) ∧
      encode [0x0a, 0xff] = "0aff" ∧ decodeBySlices "aéb" = .ok none := by
  have hread : decode? "0aff" = some [0x0a, 0xff] := by decide
  have hall : "0aff".toList.all (digits.contains ·) = true := by decide
  have hdigits : ∀ c ∈ "0aff".toList, c ∈ digits :=
    fun c hc ↦ List.contains_iff_mem.1 (List.all_eq_true.1 hall c hc)
  obtain ⟨_, hsizes⟩ := (hexadecimal_exact.2 "0aff").2 _ hread
  refine ⟨hread, hdigits, hsizes hdigits, ?_⟩
  rw [(hexadecimal_exact.2 "aéb").1]
  rfl

end Hex

end FlowGate.Text
