import FlowGate.Json.Reader

/-!
# Numbers in JSON texts

A `Numeral` is a number as the grammar has it: its sign, its digits before the point and behind it,
and its exponent. `readLiteral_text` says that a numeral is read up to its end, as the number with
just these parts.
-/

namespace FlowGate.Json

/-- The digit that a character stands for. -/
def decimalDigit (c : Char) : Nat := c.toNat - '0'.toNat

/-- A non-empty run of decimal digits. -/
structure IsRun (digits : List Char) : Prop where
  ne_nil : digits ≠ []
  isDigit : ∀ c ∈ digits, c.isDigit = true

/-- A number as it is written. -/
structure Numeral where
  /-- Whether a minus sign stands in front. -/
  negative : Bool
  /-- The digits before the point. -/
  whole : List Char
  /-- The digits after the point, if there is one. -/
  fraction : Option (List Char)
  /-- Whether the exponent is negative, and its digits. -/
  exponent : Option (Bool × List Char)
  whole_isRun : IsRun whole
  /-- No further digit follows a zero in front. -/
  whole_eq_zero : whole.head? = some '0' → whole = ['0']
  fraction_isRun : ∀ digits ∈ fraction, IsRun digits
  exponent_isRun : ∀ power ∈ exponent, IsRun power.2

namespace Numeral

/-- The text of a sign. -/
def signText (negative : Bool) : List Char := if negative then ['-'] else []

/-- The text of the digits after the point. -/
def fractionText : Option (List Char) → List Char
  | none => []
  | some digits => '.' :: digits

/-- The text of an exponent. -/
def exponentText : Option (Bool × List Char) → List Char
  | none => []
  | some (negative, digits) => 'e' :: (if negative then '-' else '+') :: digits

/-- The text of a numeral. -/
def text (numeral : Numeral) : List Char :=
  signText numeral.negative ++ (numeral.whole ++ (fractionText numeral.fraction ++
    exponentText numeral.exponent))

/-- What a numeral is read as. -/
def literal (numeral : Numeral) : Literal where
  negative := numeral.negative
  whole := numeral.whole.map decimalDigit
  fraction := numeral.fraction.map (·.map decimalDigit)
  exponent := numeral.exponent.map fun power ↦
    let value : Int := digitsValue (power.2.map decimalDigit)
    if power.1 then -value else value

end Numeral

/-! ## Digits -/

section Digits

variable {c : Char}

theorem digitValue?_of_isDigit (h : c.isDigit = true) :
    digitValue? (some c) = some (decimalDigit c) := by
  rw [Char.isDigit, Bool.and_eq_true, decide_eq_true_eq, decide_eq_true_eq] at h
  exact if_pos h

theorem eq_zero_of_decimalDigit (h : c.isDigit = true) (hzero : decimalDigit c = 0) : c = '0' := by
  rw [Char.isDigit, Bool.and_eq_true, decide_eq_true_eq, decide_eq_true_eq] at h
  have hle : '0'.toNat ≤ c.toNat := h.1
  refine Char.toNat_inj.1 ?_
  simp only [decimalDigit] at hzero
  omega

/-- `EndsDigits rest` says no digit stands at the start of the input. -/
def EndsDigits (rest : Input) : Prop := ∀ c ∈ rest.head?, digitValue? c = none

/-- A run of digits is read up to its end. -/
theorem readDigits_append {digits : List Char} (h : ∀ c ∈ digits, c.isDigit = true) {rest : Input}
    (hrest : EndsDigits rest) :
    readDigits (digits.map some ++ rest) = (digits.map decimalDigit, rest) := by
  induction digits with
  | nil =>
      cases rest with
      | nil => rfl
      | cons c rest =>
          have hc : digitValue? c = none := hrest c rfl
          simp [readDigits, hc]
  | cons c digits ih =>
      have hc := digitValue?_of_isDigit (h c List.mem_cons_self)
      have hdigits := ih fun d hd ↦ h d (List.mem_cons_of_mem _ hd)
      simp [readDigits, hc, hdigits]

end Digits

/-! ## The parts of a number -/

/-- `EndsNumber rest` says no character at the start of the input continues a number. -/
def EndsNumber (rest : Input) : Prop :=
  ∀ c ∈ rest.head?, digitValue? c = none ∧ c ≠ some '.' ∧ c ≠ some 'e' ∧ c ≠ some 'E'

theorem EndsNumber.endsDigits {rest : Input} (h : EndsNumber rest) : EndsDigits rest :=
  fun c hc ↦ (h c hc).1

namespace Numeral

variable {negative : Bool} {digits : List Nat} {input rest : Input}

theorem readFraction_none (h : rest.head? ≠ some (some '.')) :
    readFraction rest = some (none, rest) := by
  unfold readFraction
  split
  next => exact absurd rfl h
  next => rfl

theorem readFraction_some (h : readDigits input = (digits, rest)) (hne : digits ≠ []) :
    readFraction (some '.' :: input) = some (some digits, rest) := by
  cases digits with
  | nil => exact absurd rfl hne
  | cons digit digits => simp [readFraction, h]

theorem readFraction_text {fraction : Option (List Char)}
    (hfraction : ∀ digits ∈ fraction, IsRun digits) (hrest : EndsDigits rest)
    (hpoint : rest.head? ≠ some (some '.')) :
    readFraction ((fractionText fraction).map some ++ rest) =
      some (fraction.map (·.map decimalDigit), rest) := by
  cases fraction with
  | none => exact readFraction_none hpoint
  | some digits =>
      have hrun := hfraction digits rfl
      exact readFraction_some (readDigits_append hrun.isDigit hrest)
        (mt List.map_eq_nil_iff.1 hrun.ne_nil)

theorem readExponent_none (h : ∀ c ∈ rest.head?, c ≠ some 'e' ∧ c ≠ some 'E') :
    readExponent rest = some (none, rest) := by
  unfold readExponent
  split
  next c rest =>
    have hc := h (some c) rfl
    rw [if_neg (by simpa using hc)]
  next => rfl

theorem readExponent_some (h : readDigits input = (digits, rest)) (hne : digits ≠ []) :
    readExponent (some 'e' :: some (if negative then '-' else '+') :: input) =
      some (some (if negative then -(digitsValue digits : Int) else digitsValue digits), rest) := by
  cases digits with
  | nil => exact absurd rfl hne
  | cons digit digits => cases negative <;> simp [readExponent, h]

theorem readExponent_text {exponent : Option (Bool × List Char)}
    (hexponent : ∀ power ∈ exponent, IsRun power.2) (hrest : EndsNumber rest) :
    readExponent ((exponentText exponent).map some ++ rest) =
      some (exponent.map fun power ↦
        let value : Int := digitsValue (power.2.map decimalDigit)
        if power.1 then -value else value, rest) := by
  cases exponent with
  | none => exact readExponent_none fun c hc ↦ (hrest c hc).2.2
  | some power =>
      have hrun := hexponent power rfl
      exact readExponent_some (readDigits_append hrun.isDigit hrest.endsDigits)
        (mt List.map_eq_nil_iff.1 hrun.ne_nil)

/-- An exponent, or what follows in its place, ends the digits before it. -/
theorem endsDigits_exponentText (exponent : Option (Bool × List Char)) (hrest : EndsNumber rest) :
    EndsDigits ((exponentText exponent).map some ++ rest) ∧
      ((exponentText exponent).map some ++ rest).head? ≠ some (some '.') := by
  cases exponent with
  | none => exact ⟨hrest.endsDigits, fun h ↦ (hrest _ h).2.1 rfl⟩
  | some power => exact ⟨fun c hc ↦ by cases hc; rfl, by simp [exponentText]⟩

/-- So does a point. -/
theorem endsDigits_fractionText (fraction : Option (List Char)) (hrest : EndsDigits rest) :
    EndsDigits ((fractionText fraction).map some ++ rest) := by
  cases fraction with
  | none => exact hrest
  | some digits => exact fun c hc ↦ by cases hc; rfl

/-- A minus sign is read; without one, a number starts with its digits. -/
theorem readLiteral_sign (hminus : input.head? ≠ some (some '-'))
    (h : readDigits input = (digits, rest))
    (hwhole : ¬ (digits = [] ∨ (digits.head? = some 0 ∧ digits.length ≠ 1))) :
    readLiteral ((signText negative).map some ++ input) = (do
      let (fraction, rest) ← readFraction rest
      let (exponent, rest) ← readExponent rest
      return (⟨negative, digits, fraction, exponent⟩, rest)) := by
  unfold readLiteral
  cases negative with
  | true =>
      simp only [signText, if_true, List.map_cons, List.map_nil, List.cons_append,
        List.nil_append, h, if_neg hwhole]
  | false =>
      simp only [signText, Bool.false_eq_true, if_false, List.map_nil, List.nil_append]
      split
      next => exact absurd rfl hminus
      next => simp only [h, if_neg hwhole]

/-! ## Whole numbers -/

variable (numeral : Numeral)

/-- The digits before the point start with a digit. -/
theorem exists_whole_eq_cons : ∃ c digits, numeral.whole = c :: digits ∧ c.isDigit = true := by
  obtain ⟨c, digits, hcons⟩ := List.exists_cons_of_ne_nil numeral.whole_isRun.ne_nil
  have hc : c ∈ numeral.whole := by
    rw [hcons]
    exact List.mem_cons_self
  exact ⟨c, digits, hcons, numeral.whole_isRun.isDigit c hc⟩

/-- The digits before the point are such as the grammar has them. -/
theorem whole_wellFormed :
    ¬ (numeral.literal.whole = [] ∨
      (numeral.literal.whole.head? = some 0 ∧ numeral.literal.whole.length ≠ 1)) := by
  obtain ⟨c, digits, hcons, hdigit⟩ := numeral.exists_whole_eq_cons
  have hwhole : numeral.literal.whole = decimalDigit c :: digits.map decimalDigit := by
    rw [literal, hcons, List.map_cons]
  rw [hwhole]
  rintro (hnil | ⟨hhead, hlength⟩)
  · cases hnil
  · have hzero := eq_zero_of_decimalDigit hdigit (Option.some.inj hhead)
    have halone := numeral.whole_eq_zero (by rw [hcons, hzero, List.head?_cons])
    rw [hcons] at halone
    rw [(List.cons.inj halone).2] at hlength
    exact hlength rfl

/-- A numeral is read up to its end. -/
theorem readLiteral_text (hrest : EndsNumber rest) :
    readLiteral (numeral.text.map some ++ rest) = some (numeral.literal, rest) := by
  have hend := endsDigits_exponentText numeral.exponent hrest
  have hwhole := readDigits_append numeral.whole_isRun.isDigit
    (endsDigits_fractionText numeral.fraction hend.1)
  have hminus : (numeral.whole.map some ++ ((fractionText numeral.fraction).map some ++
      ((exponentText numeral.exponent).map some ++ rest))).head? ≠ some (some '-') := by
    intro hhead
    obtain ⟨c, digits, hcons, hdigit⟩ := numeral.exists_whole_eq_cons
    rw [hcons] at hhead
    cases hhead
    cases hdigit
  simp only [text, List.map_append, List.append_assoc]
  rw [readLiteral_sign hminus hwhole numeral.whole_wellFormed,
    readFraction_text numeral.fraction_isRun hend.1 hend.2]
  simp only [Option.bind_eq_bind, Option.bind_some,
    readExponent_text numeral.exponent_isRun hrest]
  rfl

/-- A numeral starts with its sign or a digit. -/
theorem exists_text_eq_cons :
    ∃ c characters, numeral.text = c :: characters ∧ (c = '-' ∨ c.isDigit = true) := by
  obtain ⟨c, digits, hcons, hdigit⟩ := numeral.exists_whole_eq_cons
  rw [text, hcons, signText]
  cases numeral.negative with
  | true => exact ⟨'-', _, rfl, .inl rfl⟩
  | false => exact ⟨c, _, rfl, .inr hdigit⟩

end Numeral

end FlowGate.Json
