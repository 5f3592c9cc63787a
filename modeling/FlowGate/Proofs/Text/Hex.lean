import FlowGate.Text.Basic
import FlowGate.Text.Hex
import Mathlib.Tactic.SplitIfs

/-!
# Reading what was written in hexadecimal

`decode?_encode` says that bytes come back when their digits are read. `Spells` relates a text to
the digits that it is read as, and `decode?_eq_some_iff` says that reading finds the bytes that a
text spells. `lowercase_eq_encode_iff` compares this with the digits in capital or small letters:
what else is read has a plus sign in place of a zero.
-/

namespace FlowGate.Text.Hex

/-- A digit stands for the number that it was written for. -/
theorem digitValue?_digit {value : Nat} (h : value < 16) :
    digitValue? (digit value) = some value := by
  have hall : ∀ value ∈ List.range 16, digitValue? (digit value) = some value := by decide
  exact hall value (List.mem_range.2 h)

/-- No digit is a plus sign, so that a pair of digits is read as such. -/
theorem digit_ne_plus {value : Nat} (h : value < 16) : digit value ≠ '+' := by
  intro heq
  have hvalue := digitValue?_digit h
  rw [heq] at hvalue
  cases hvalue

/-- The two digits of a byte are read as the byte. -/
theorem pairValue?_digits (byte : UInt8) :
    pairValue? (digit (byte.toNat / 16)) (digit (byte.toNat % 16)) = some byte := by
  have hbyte := byte.toNat_lt
  have hhigh : byte.toNat / 16 < 16 := by omega
  have hlow : byte.toNat % 16 < 16 := by omega
  have hsum : byte.toNat / 16 * 16 + byte.toNat % 16 = byte.toNat := by omega
  simp only [pairValue?, if_neg (digit_ne_plus hhigh), digitValue?_digit hhigh,
    digitValue?_digit hlow, bind, Option.bind, pure, hsum, UInt8.ofNat_toNat]

theorem decodeList?_flatMap (bytes : List UInt8) :
    decodeList? (bytes.flatMap encodeByte) = some bytes := by
  induction bytes with
  | nil => rfl
  | cons byte rest ih =>
      rw [List.flatMap_cons]
      show decodeList? (digit (byte.toNat / 16) :: digit (byte.toNat % 16) ::
        rest.flatMap encodeByte) = _
      simp only [decodeList?, pairValue?_digits, ih, bind, Option.bind, pure]

/-- Reading the digits of bytes gives the bytes. -/
@[simp]
theorem decode?_encode (bytes : List UInt8) : decode? (encode bytes) = some bytes := by
  rw [decode?, encode, String.toList_ofList]
  exact decodeList?_flatMap bytes

/-! ### Digits of either case -/

/-- The code of a character in small letters. -/
theorem toNat_toLower (c : Char) :
    c.toLower.toNat = if 65 ≤ c.toNat ∧ c.toNat ≤ 90 then c.toNat + 32 else c.toNat := by
  have hcapital : (c.val ≥ 'A'.val ∧ c.val ≤ 'Z'.val) ↔ (65 ≤ c.toNat ∧ c.toNat ≤ 90) := by
    rw [ge_iff_le, UInt32.le_iff_toNat_le, UInt32.le_iff_toNat_le]
    rfl
  unfold Char.toLower
  split
  next h =>
    rw [if_pos (hcapital.1 h)]
    have hcode := (hcapital.1 h).2
    show (c.val + 32).toNat = _
    rw [UInt32.toNat_add]
    show (c.toNat + 32) % 4294967296 = _
    omega
  next h => rw [if_neg (mt hcapital.2 h)]

theorem toNat_digit {value : Nat} (h : value < 16) :
    (digit value).toNat = if value < 10 then 48 + value else 87 + value := by
  have hall : ∀ value ∈ List.range 16,
      (digit value).toNat = if value < 10 then 48 + value else 87 + value := by decide
  exact hall value (List.mem_range.2 h)

/-- A character stands for a number if it is the digit for it, maybe in a capital letter. -/
theorem digitValue?_eq_some_iff {c : Char} {value : Nat} :
    digitValue? c = some value ↔ value < 16 ∧ c.toLower = digit value := by
  have hle (c d : Char) : c ≤ d ↔ c.toNat ≤ d.toNat := UInt32.le_iff_toNat_le
  have hvalue : digitValue? c =
      if 48 ≤ c.toNat ∧ c.toNat ≤ 57 then some (c.toNat - 48)
      else if 97 ≤ c.toNat ∧ c.toNat ≤ 102 then some (c.toNat - 97 + 10)
      else if 65 ≤ c.toNat ∧ c.toNat ≤ 70 then some (c.toNat - 65 + 10)
      else none := by
    simp only [digitValue?, hle]
    rfl
  have hdigit : value < 16 ∧ c.toLower = digit value ↔
      value < 16 ∧ c.toLower.toNat = if value < 10 then 48 + value else 87 + value := by
    refine and_congr_right fun hlt ↦ ?_
    rw [← Char.toNat_inj, toNat_digit hlt]
  rw [hvalue, hdigit, toNat_toLower]
  split_ifs <;> simp <;> omega

/-- Digits for different numbers differ. -/
theorem digit_inj {value other : Nat} (hvalue : value < 16) (hother : other < 16) :
    digit value = digit other ↔ value = other := by
  refine ⟨fun h ↦ ?_, congrArg digit⟩
  have hread := digitValue?_digit hvalue
  rw [h, digitValue?_digit hother] at hread
  exact (Option.some.inj hread).symm

/-- The first character of a pair stands for a number if it is the digit for it, or a plus sign for
a zero. -/
theorem leading_eq_some_iff {c : Char} {value : Nat} :
    (if c = '+' then some 0 else digitValue? c) = some value ↔
      value < 16 ∧ (c.toLower = digit value ∨ c = '+' ∧ digit value = '0') := by
  split
  next hplus =>
    subst hplus
    have hzero (h : value < 16) : digit value = '0' ↔ value = 0 := digit_inj h (by omega : 0 < 16)
    have hnot (h : value < 16) : '+'.toLower ≠ digit value := (digit_ne_plus h).symm
    constructor
    · intro h
      obtain rfl := Option.some.inj h
      exact ⟨by omega, .inr ⟨rfl, rfl⟩⟩
    · rintro ⟨hlt, hdigit | ⟨_, hdigit⟩⟩
      · exact absurd hdigit (hnot hlt)
      · rw [(hzero hlt).1 hdigit]
  next hplus =>
    rw [digitValue?_eq_some_iff, or_iff_left fun h ↦ hplus h.1]

/-- A pair stands for a byte if its characters are the digits of the byte in either case, or if a
plus sign takes the place of a zero in front. -/
theorem pairValue?_eq_some_iff {first second : Char} {byte : UInt8} :
    pairValue? first second = some byte ↔
      (first.toLower = digit (byte.toNat / 16) ∨ first = '+' ∧ digit (byte.toNat / 16) = '0') ∧
        second.toLower = digit (byte.toNat % 16) := by
  have hbyte := byte.toNat_lt
  have hvalue {high low : Nat} (hhigh : high < 16) (hlow : low < 16) :
      UInt8.ofNat (high * 16 + low) = byte ↔ high = byte.toNat / 16 ∧ low = byte.toNat % 16 := by
    rw [← UInt8.toNat_inj, UInt8.toNat_ofNat']
    omega
  have hpair : pairValue? first second =
      (if first = '+' then some 0 else digitValue? first).bind fun high ↦
        (digitValue? second).bind fun low ↦ some (UInt8.ofNat (high * 16 + low)) := by
    unfold pairValue?
    split <;> rfl
  simp only [hpair, Option.bind_eq_some_iff, leading_eq_some_iff, digitValue?_eq_some_iff,
    Option.some.injEq]
  constructor
  · rintro ⟨high, ⟨hhigh, hfirst⟩, low, ⟨hlow, hsecond⟩, hpair⟩
    obtain ⟨rfl, rfl⟩ := (hvalue hhigh hlow).1 hpair
    exact ⟨hfirst, hsecond⟩
  · rintro ⟨hfirst, hsecond⟩
    have hhigh : byte.toNat / 16 < 16 := by omega
    have hlow : byte.toNat % 16 < 16 := by omega
    exact ⟨_, ⟨hhigh, hfirst⟩, _, ⟨hlow, hsecond⟩, (hvalue hhigh hlow).2 ⟨rfl, rfl⟩⟩

/-! ### What a text is read as -/

/-- `Spells text digits` says a text is read as the digits: its pairs are those of the digits, with
letters of either case, but a plus sign may stand for a zero in front of a pair. -/
inductive Spells : List Char → List Char → Prop where
  | nil : Spells [] []
  | pair {first second high low : Char} {text digits : List Char}
      (hfirst : first.toLower = high ∨ first = '+' ∧ high = '0') (hsecond : second.toLower = low)
      (hrest : Spells text digits) : Spells (first :: second :: text) (high :: low :: digits)

variable {text : List Char} {bytes : List UInt8}

theorem flatMap_encodeByte_cons (byte : UInt8) (bytes : List UInt8) :
    (byte :: bytes).flatMap encodeByte =
      digit (byte.toNat / 16) :: digit (byte.toNat % 16) :: bytes.flatMap encodeByte := rfl

/-- Characters are read as the bytes whose digits they spell. -/
theorem decodeList?_eq_some_iff :
    decodeList? text = some bytes ↔ Spells text (bytes.flatMap encodeByte) := by
  fun_induction decodeList? text generalizing bytes with
  | case1 =>
      cases bytes with
      | nil => exact iff_of_true rfl .nil
      | cons byte bytes => exact iff_of_false nofun nofun
  | case2 c =>
      refine iff_of_false nofun fun h ↦ ?_
      cases bytes <;> cases h
  | case3 first second rest ih =>
      cases bytes with
      | nil =>
          refine iff_of_false (fun h ↦ ?_) nofun
          simp only [Option.bind_eq_bind, Option.bind_eq_some_iff, Option.pure_def,
            Option.some.injEq, List.cons_ne_nil, and_false, exists_false] at h
      | cons byte bytes =>
          rw [flatMap_encodeByte_cons]
          simp only [Option.bind_eq_bind, Option.bind_eq_some_iff, Option.pure_def,
            Option.some.injEq, List.cons.injEq]
          constructor
          · rintro ⟨_, hpair, _, hrest, rfl, rfl⟩
            obtain ⟨hfirst, hsecond⟩ := pairValue?_eq_some_iff.1 hpair
            exact .pair hfirst hsecond (ih.1 hrest)
          · intro h
            cases h with
            | pair hfirst hsecond hrest =>
              exact ⟨byte, pairValue?_eq_some_iff.2 ⟨hfirst, hsecond⟩, bytes, ih.2 hrest, rfl, rfl⟩

/-- A text is read as the bytes whose digits it spells. -/
theorem decode?_eq_some_iff {text : String} :
    decode? text = some bytes ↔ Spells text.toList (encode bytes).toList := by
  rw [decode?, encode, String.toList_ofList, decodeList?_eq_some_iff]

/-- No digit of a byte is a plus sign. -/
theorem plus_not_mem_flatMap (bytes : List UInt8) : '+' ∉ bytes.flatMap encodeByte := by
  intro h
  obtain ⟨byte, _, hmem⟩ := List.mem_flatMap.1 h
  have hbyte := byte.toNat_lt
  rcases List.mem_cons.1 hmem with hhigh | hmem
  · exact digit_ne_plus (by omega) hhigh.symm
  · exact digit_ne_plus (by omega) (List.mem_singleton.1 hmem).symm

/-- The digits of bytes, with letters of either case, are the texts without a plus sign that spell
them. -/
theorem map_toLower_eq_iff :
    text.map Char.toLower = bytes.flatMap encodeByte ↔
      Spells text (bytes.flatMap encodeByte) ∧ '+' ∉ text := by
  constructor
  · intro h
    refine ⟨?_, fun hplus ↦ plus_not_mem_flatMap bytes (h ▸ List.mem_map_of_mem hplus)⟩
    induction bytes generalizing text with
    | nil =>
        rw [List.map_eq_nil_iff.1 h]
        exact .nil
    | cons byte bytes ih =>
        rw [flatMap_encodeByte_cons] at h ⊢
        obtain ⟨first, rest, rfl, hfirst, hrest⟩ := List.map_eq_cons_iff.1 h
        obtain ⟨second, rest, rfl, hsecond, hrest⟩ := List.map_eq_cons_iff.1 hrest
        exact .pair (.inl hfirst) hsecond (ih hrest)
  · rintro ⟨h, hplus⟩
    generalize bytes.flatMap encodeByte = digits at h
    induction h with
    | nil => rfl
    | pair hfirst hsecond _ ih =>
        obtain ⟨hne, hplus⟩ := not_or.1 (mt List.mem_cons.2 hplus)
        have hrest := ih fun h ↦ hplus (List.mem_cons_of_mem _ h)
        rw [List.map_cons, List.map_cons, hsecond, hrest,
          hfirst.resolve_right fun h ↦ hne h.1.symm]

/-- A text is the digits of bytes, with letters of either case, if it is read as them and has no
plus sign. -/
theorem lowercase_eq_encode_iff {text : String} :
    lowercase text = encode bytes ↔ decode? text = some bytes ∧ '+' ∉ text.toList := by
  rw [lowercase, encode, String.ofList_inj, map_toLower_eq_iff, decode?, decodeList?_eq_some_iff]

theorem digit_high_eq_zero_iff {byte : UInt8} : digit (byte.toNat / 16) = '0' ↔ byte < 16 := by
  have hbyte := byte.toNat_lt
  have hdigit : digit (byte.toNat / 16) = '0' ↔ byte.toNat / 16 = 0 :=
    digit_inj (by omega) (by omega : 0 < 16)
  rw [hdigit, UInt8.lt_iff_toNat_lt]
  show _ ↔ byte.toNat < 16
  omega

/-- Only in place of a zero in front can a plus sign spell a byte. -/
theorem exists_lt_of_plus_mem (h : Spells text (bytes.flatMap encodeByte)) (hplus : '+' ∈ text) :
    ∃ byte ∈ bytes, byte < 16 := by
  induction bytes generalizing text with
  | nil =>
      cases h
      cases hplus
  | cons byte bytes ih =>
      have hbyte := byte.toNat_lt
      rw [flatMap_encodeByte_cons] at h
      cases h with
      | pair hfirst hsecond hrest =>
      rcases List.mem_cons.1 hplus with rfl | hplus
      · have hzero := (hfirst.resolve_left (digit_ne_plus (by omega)).symm).2
        exact ⟨byte, List.mem_cons_self, digit_high_eq_zero_iff.1 hzero⟩
      rcases List.mem_cons.1 hplus with rfl | hplus
      · exact absurd hsecond.symm (digit_ne_plus (by omega))
      · obtain ⟨other, hmem, hother⟩ := ih hrest hplus
        exact ⟨other, List.mem_cons_of_mem _ hmem, hother⟩

/-- Wherever a byte has a zero in front, a plus sign can take its place. -/
theorem exists_plus_mem_of_lt (h : ∃ byte ∈ bytes, byte < 16) :
    ∃ text, Spells text (bytes.flatMap encodeByte) ∧ '+' ∈ text := by
  obtain ⟨byte, hmem, hzero⟩ := h
  have hdigits (bytes : List UInt8) := decodeList?_eq_some_iff.1 (decodeList?_flatMap bytes)
  induction bytes with
  | nil => cases hmem
  | cons first rest ih =>
      have hlow := (digitValue?_eq_some_iff.1
        (digitValue?_digit (Nat.mod_lt first.toNat (by omega : 16 > 0)))).2
      rcases List.mem_cons.1 hmem with rfl | hmem
      · exact ⟨'+' :: digit (byte.toNat % 16) :: rest.flatMap encodeByte,
          .pair (.inr ⟨rfl, digit_high_eq_zero_iff.2 hzero⟩) hlow (hdigits rest),
          List.mem_cons_self⟩
      · obtain ⟨text, hspells, hplus⟩ := ih hmem
        have hfirst := first.toNat_lt
        have hhigh := (digitValue?_eq_some_iff.1
          (digitValue?_digit (by omega : first.toNat / 16 < 16))).2
        exact ⟨digit (first.toNat / 16) :: digit (first.toNat % 16) :: text,
          .pair (.inl hhigh) hlow hspells,
          List.mem_cons_of_mem _ (List.mem_cons_of_mem _ hplus)⟩

/-- The texts that are read as given bytes are the digits of these, with letters of either case,
exactly if no byte has a zero in front. -/
theorem decode?_iff_lowercase_iff :
    (∀ text, decode? text = some bytes ↔ lowercase text = encode bytes) ↔
      ∀ byte ∈ bytes, 16 ≤ byte := by
  constructor
  · intro h byte hmem
    refine Decidable.byContradiction fun hbyte ↦ ?_
    obtain ⟨text, hspells, hplus⟩ := exists_plus_mem_of_lt ⟨byte, hmem, UInt8.not_le.1 hbyte⟩
    have hread : decode? (String.ofList text) = some bytes := by
      rwa [decode?, String.toList_ofList, decodeList?_eq_some_iff]
    refine (lowercase_eq_encode_iff.1 ((h _).1 hread)).2 ?_
    rwa [String.toList_ofList]
  · intro h text
    rw [lowercase_eq_encode_iff, iff_self_and]
    intro hread hplus
    obtain ⟨byte, hmem, hbyte⟩ := exists_lt_of_plus_mem (decodeList?_eq_some_iff.1 hread) hplus
    exact UInt8.not_le.2 hbyte (h byte hmem)

end FlowGate.Text.Hex
