import FlowGate.Json.Printer
import FlowGate.Proofs.Json.Numerals

/-!
# Numbers that were written

Every number is written as a numeral: an integer by its digits (`Numeral.ofInt`), and any other
number with a point or an exponent (`exists_numeral_of_real`). `Number.reread?` is what it is read
as again. An integer that fits 64 bits is read as itself (`Number.reread?_integer`). Any other
number is read as one that is no integer either (`Number.reread?_real`), but it need not be the same
one, since the reader rounds the digits before it applies the power of ten.
-/

namespace FlowGate

namespace Json

/-! ## Runs of digits -/

section Runs

variable {digits more : List Char} {count : Nat}

theorem isRun_zero : IsRun ['0'] := ⟨List.cons_ne_nil _ _, by simp⟩

theorem isDigit_of_mem_zeros {c : Char} (h : c ∈ List.replicate count '0') : c.isDigit = true := by
  rw [List.eq_of_mem_replicate h]
  rfl

theorem IsRun.append (h : IsRun digits) (hmore : ∀ c ∈ more, c.isDigit = true) :
    IsRun (digits ++ more) where
  ne_nil := List.append_ne_nil_of_left_ne_nil h.ne_nil _
  isDigit c hc := (List.mem_append.1 hc).elim (h.isDigit c) (hmore c)

theorem IsRun.prepend (h : IsRun digits) (hmore : ∀ c ∈ more, c.isDigit = true) :
    IsRun (more ++ digits) where
  ne_nil := List.append_ne_nil_of_right_ne_nil _ h.ne_nil
  isDigit c hc := (List.mem_append.1 hc).elim (hmore c) (h.isDigit c)

theorem IsRun.take (h : IsRun digits) (hcount : 0 < count) : IsRun (digits.take count) where
  ne_nil hnil := (List.take_eq_nil_iff.1 hnil).elim (Nat.ne_of_gt hcount) h.ne_nil
  isDigit c hc := h.isDigit c (List.mem_of_mem_take hc)

theorem IsRun.drop (h : IsRun digits) (hcount : count < digits.length) :
    IsRun (digits.drop count) where
  ne_nil hnil := Nat.not_le_of_lt hcount (List.drop_eq_nil_iff.1 hnil)
  isDigit c hc := h.isDigit c (List.mem_of_mem_drop hc)

theorem isRun_toDigits (n : Nat) : IsRun (Nat.toDigits 10 n) where
  ne_nil := Nat.toDigits_ne_nil
  isDigit _ hc := Nat.isDigit_of_mem_toDigits (by decide) (by decide) hc

/-- Only the digits of zero have a zero in front. -/
theorem eq_zero_of_head? {n : Nat} (h : (Nat.toDigits 10 n).head? = some '0') : n = 0 := by
  induction n using Nat.strongRecOn with
  | ind n ih =>
      by_cases hten : n < 10
      · rw [Nat.toDigits_of_lt_base hten] at h
        exact Nat.digitChar_eq_zero.1 (Option.some.inj h)
      · obtain ⟨c, digits, hcons⟩ :=
          List.exists_cons_of_ne_nil (isRun_toDigits (n / 10)).ne_nil
        rw [Nat.toDigits_of_base_le (by omega) (by omega), hcons] at h
        have hlead := ih (n / 10) (by omega) (by rw [hcons]; exact h)
        omega

theorem toDigits_eq_zero {n : Nat} (h : (Nat.toDigits 10 n).head? = some '0') :
    Nat.toDigits 10 n = ['0'] := by
  rw [eq_zero_of_head? h]
  rfl

theorem toList_toString_nat (n : Nat) : (toString n).toList = Nat.toDigits 10 n := by simp

theorem toList_toString_int (value : Int) :
    (toString value).toList =
      Numeral.signText (value < 0) ++ Nat.toDigits 10 value.natAbs := by
  have htext : toString value = value.repr := rfl
  rw [htext, Int.repr_eq_if]
  split
  next h =>
    have hsign : decide (value < 0) = false := decide_eq_false (by omega)
    have habs : value.toNat = value.natAbs := by omega
    simp [hsign, habs, Numeral.signText]
  next h =>
    have hsign : decide (value < 0) = true := decide_eq_true (by omega)
    have habs : (-value).toNat = value.natAbs := by omega
    simp [hsign, habs, Numeral.signText]

end Runs

/-! ## Integers -/

/-- An integer as it is written. -/
def Numeral.ofInt (value : Int) : Numeral where
  negative := value < 0
  whole := Nat.toDigits 10 value.natAbs
  fraction := none
  exponent := none
  whole_isRun := isRun_toDigits _
  whole_eq_zero := toDigits_eq_zero
  fraction_isRun := nofun
  exponent_isRun := nofun

theorem Numeral.text_ofInt (value : Int) : (ofInt value).text = (toString value).toList := by
  rw [toList_toString_int]
  simp [text, ofInt, fractionText, exponentText]

/-- Appends a digit to a number. -/
def appendDigit (value digit : Nat) : Nat := value * 10 + digit

theorem foldl_toDigits (n : Nat) :
    ((Nat.toDigits 10 n).map decimalDigit).foldl appendDigit 0 = n := by
  have hdigits := Nat.ofDigitChars_ten_toDigits (n := n)
  rw [Nat.ofDigitChars] at hdigits
  rw [List.foldl_map]
  simpa only [appendDigit, decimalDigit, Nat.mul_comm] using hdigits

theorem le_foldl_appendDigit (value : Nat) (digits : List Nat) :
    value ≤ digits.foldl appendDigit value := by
  induction digits generalizing value with
  | nil => exact Nat.le_refl value
  | cons digit digits ih =>
      have hrest := ih (appendDigit value digit)
      rw [List.foldl_cons]
      simp only [appendDigit] at hrest ⊢
      omega

/-- All digits of a number that fits 64 bits are taken. -/
theorem absorb_of_lt {value : Nat} {digits : List Nat}
    (h : digits.foldl appendDigit value < UInt64.size) :
    absorb value digits = (digits.foldl appendDigit value, digits.length, 0) := by
  induction digits generalizing value with
  | nil => rfl
  | cons digit digits ih =>
      have hfits : value * 10 + digit < UInt64.size :=
        Nat.lt_of_le_of_lt (le_foldl_appendDigit (appendDigit value digit) digits) h
      rw [absorb, if_pos hfits]
      exact congrArg (fun taken : Nat × Nat × Nat ↦ (taken.1, taken.2.1 + 1, taken.2.2)) (ih h)

/-- An integer that fits 64 bits is read as itself. -/
theorem number?_ofInt {value : Int} (hlow : Int64.minValue.toInt ≤ value)
    (hhigh : value < UInt64.size) :
    (Numeral.ofInt value).literal.number? = some (.integer value) := by
  have hmin : Int64.minValue.toInt = -9223372036854775808 := rfl
  have hsize : UInt64.size = 18446744073709551616 := rfl
  have hfits : value.natAbs < UInt64.size := by omega
  rw [← foldl_toDigits value.natAbs] at hfits
  have habsorb := absorb_of_lt hfits
  rw [foldl_toDigits] at habsorb
  have hliteral : (Numeral.ofInt value).literal =
      ⟨value < 0, (Nat.toDigits 10 value.natAbs).map decimalDigit, none, none⟩ := rfl
  rw [hliteral, Literal.number?]
  simp only [habsorb]
  by_cases hsign : value < 0
  · have habs : -(value.natAbs : Int) = value := by omega
    have hpositive : 0 < value.natAbs := by omega
    rw [if_neg (by simp [hsign]), if_pos ⟨trivial, hpositive, by rw [habs]; exact hlow⟩, habs]
  · have habs : (value.natAbs : Int) = value := by omega
    rw [if_pos (by simp [hsign]), habs]

/-! ## Numbers with a point or an exponent -/

/-- `IsRealText text` says `text` is a number without a sign that has a point or an exponent. -/
def IsRealText (text : List Char) : Prop :=
  ∃ numeral : Numeral, numeral.negative = false ∧ numeral.text = text ∧
    (numeral.fraction.isSome = true ∨ numeral.exponent.isSome = true)

theorem isRealText_point {whole fraction : List Char} (hwhole : IsRun whole)
    (hzero : whole.head? = some '0' → whole = ['0']) (hfraction : IsRun fraction) :
    IsRealText (whole ++ '.' :: fraction) := by
  have hfractions : ∀ digits ∈ some fraction, IsRun digits := by
    rintro _ ⟨⟩
    exact hfraction
  refine ⟨⟨false, whole, some fraction, none, hwhole, hzero, hfractions, nofun⟩, rfl, ?_, .inl rfl⟩
  simp [Numeral.text, Numeral.signText, Numeral.fractionText, Numeral.exponentText]

theorem isRealText_exponent {c : Char} (hc : c.isDigit = true) {fraction : Option (List Char)}
    (hfraction : ∀ digits ∈ fraction, IsRun digits) (power : Int) :
    IsRealText (c :: (Numeral.fractionText fraction ++
      'e' :: (if power < 0 then '-' else '+') :: Nat.toDigits 10 power.natAbs)) := by
  have hwhole : IsRun [c] := ⟨List.cons_ne_nil _ _, by simpa using hc⟩
  have hzero : [c].head? = some '0' → [c] = ['0'] := fun hhead ↦ by rw [Option.some.inj hhead]
  have hpower : ∀ exponent ∈ some (decide (power < 0), Nat.toDigits 10 power.natAbs),
      IsRun exponent.2 := by
    rintro _ ⟨⟩
    exact isRun_toDigits _
  refine ⟨⟨false, [c], fraction, some (power < 0, Nat.toDigits 10 power.natAbs), hwhole, hzero,
    hfraction, hpower⟩, rfl, ?_, .inr rfl⟩
  simp [Numeral.text, Numeral.signText, Numeral.exponentText]

/-- Further zeros may stand behind the digits of a positive number. -/
theorem isRealText_zeros {digits count : Nat} (h : digits = 0 → count = 0) :
    IsRealText (Nat.toDigits 10 digits ++ List.replicate count '0' ++ ['.', '0']) := by
  have hrun := isRun_toDigits digits
  refine isRealText_point (hrun.append fun _ ↦ isDigit_of_mem_zeros) ?_ isRun_zero
  intro hhead
  obtain ⟨c, more, hcons⟩ := List.exists_cons_of_ne_nil hrun.ne_nil
  have hfirst : (Nat.toDigits 10 digits).head? = some '0' := by
    rw [hcons] at hhead ⊢
    exact hhead
  rw [h (eq_zero_of_head? hfirst), toDigits_eq_zero hfirst]
  rfl

/-- The point may stand between two digits. -/
theorem isRealText_between {digits count : Nat} (hfirst : 0 < count)
    (hlast : count < (Nat.toDigits 10 digits).length) :
    IsRealText ((Nat.toDigits 10 digits).take count ++
      '.' :: (Nat.toDigits 10 digits).drop count) := by
  have hrun := isRun_toDigits digits
  refine isRealText_point (hrun.take hfirst) ?_ (hrun.drop hlast)
  intro hhead
  rw [List.head?_take, if_neg (Nat.ne_of_gt hfirst)] at hhead
  rw [toDigits_eq_zero hhead]
  exact List.take_of_length_le (l := ['0']) hfirst

/-- All digits may stand behind the point. -/
theorem isRealText_below (digits count : Nat) :
    IsRealText ('0' :: '.' :: (List.replicate count '0' ++ Nat.toDigits 10 digits)) :=
  isRealText_point isRun_zero (fun _ ↦ rfl)
    ((isRun_toDigits digits).prepend fun _ ↦ isDigit_of_mem_zeros)

/-- The digits in front of an exponent are one digit and a fraction of the others, if any. -/
theorem toList_mantissa (digits : Nat) :
    ∃ c fraction, c.isDigit = true ∧ (∀ digits ∈ fraction, IsRun digits) ∧
      (if (Nat.toDigits 10 digits).length = 1 then toString digits
        else String.ofList ((toString digits).toList.take 1) ++ "." ++
          String.ofList ((toString digits).toList.drop 1)).toList =
        c :: Numeral.fractionText fraction := by
  have hrun := isRun_toDigits digits
  obtain ⟨c, more, hcons⟩ := List.exists_cons_of_ne_nil hrun.ne_nil
  have hc : c.isDigit = true := hrun.isDigit c (by rw [hcons]; exact List.mem_cons_self)
  simp only [hcons]
  split
  next hone =>
    refine ⟨c, none, hc, nofun, ?_⟩
    rw [toList_toString_nat, hcons, List.length_eq_zero_iff.1 (Nat.succ.inj hone)]
    rfl
  next hmany =>
    have hfraction : ∀ digits ∈ some more, IsRun digits := by
      rintro _ ⟨⟩
      refine ⟨fun hnil ↦ hmany (by rw [hnil]; rfl), fun d hd ↦ hrun.isDigit d ?_⟩
      rw [hcons]
      exact List.mem_cons_of_mem c hd
    refine ⟨c, some more, hc, hfraction, ?_⟩
    simp [hcons, Numeral.fractionText]

theorem toList_power (power : Int) :
    ((if 0 ≤ power then "e+" else "e") ++ toString power).toList =
      'e' :: (if power < 0 then '-' else '+') :: Nat.toDigits 10 power.natAbs := by
  rw [String.toList_append, toList_toString_int]
  by_cases h : 0 ≤ power
  · simp [h, Int.not_lt.2 h, Numeral.signText]
  · simp [h, Int.not_le.1 h, Numeral.signText]

/-- Digits times a power of ten are written with a point or an exponent. -/
theorem isRealText_positional {digits : Nat} {exponent : Int} (h : digits = 0 → exponent = 0) :
    IsRealText (Binary64.positional digits exponent).toList := by
  have hlength : (toString digits).length = (Nat.toDigits 10 digits).length := by
    rw [← String.length_toList, toList_toString_nat]
  have hsome : 0 < (Nat.toDigits 10 digits).length :=
    List.length_pos_iff.2 (isRun_toDigits digits).ne_nil
  unfold Binary64.positional
  dsimp only
  rw [hlength]
  split
  next hplain =>
    split
    next hexponent =>
      have hzeros : digits = 0 → exponent.toNat = 0 := by omega
      have htext := isRealText_zeros hzeros
      simpa [Binary64.zeros] using htext
    next hexponent =>
      split
      next hlead =>
        have hfirst : 0 < (exponent + (Nat.toDigits 10 digits).length - 1 + 1).toNat := by omega
        have hlast : (exponent + (Nat.toDigits 10 digits).length - 1 + 1).toNat <
            (Nat.toDigits 10 digits).length := by omega
        have htext := isRealText_between hfirst hlast
        simpa using htext
      next hlead =>
        have htext := isRealText_below digits
          (-(exponent + (Nat.toDigits 10 digits).length - 1) - 1).toNat
        simpa [Binary64.zeros] using htext
  next hfar =>
    obtain ⟨c, fraction, hc, hfraction, hmantissa⟩ := toList_mantissa digits
    rw [String.append_assoc, String.toList_append, hmantissa, toList_power]
    exact isRealText_exponent hc hfraction _

end Json

/-! ## The digits of a positive number -/

namespace Binary64

variable {magnitude : Nat}

theorem ratio_pos (h : 0 < magnitude) : 0 < (ratio magnitude).1 := by
  refine Nat.mul_pos ?_ (Nat.pow_pos (by decide))
  unfold significand
  split
  next => exact h
  next => exact Nat.add_pos_left (Nat.pow_pos (by decide)) _

theorem timesPower_zero (exponent : Int) :
    ∃ denominator, 0 < denominator ∧ timesPower 0 1 exponent = (0, denominator) := by
  unfold timesPower
  split
  next => exact ⟨1, Nat.one_pos, by rw [Nat.zero_mul]⟩
  next => exact ⟨_, Nat.mul_pos Nat.one_pos (Nat.pow_pos (by decide)), rfl⟩

/-- Zero is not read as a positive number. -/
theorem readsBack_zero (h : 0 < magnitude) (exponent : Int) :
    readsBack magnitude 0 exponent = false := by
  obtain ⟨denominator, hdenominator, hzero⟩ := timesPower_zero exponent
  have hlow : 0 < ((ratio (magnitude - 1)).1 + (ratio magnitude).1) * denominator :=
    Nat.mul_pos (Nat.add_pos_right _ (ratio_pos h)) hdenominator
  unfold readsBack
  simp only [hzero, Nat.zero_mul]
  split
  · exact Bool.and_eq_false_iff.2 (.inl (decide_eq_false (Nat.not_le_of_lt hlow)))
  · exact Bool.and_eq_false_iff.2 (.inl (decide_eq_false (Nat.not_lt_zero _)))

/-- A decimal that was found reads back. -/
theorem readsBack_of_nearestAt? {digits : Nat} {exponent : Int}
    (h : nearestAt? magnitude exponent = some digits) :
    readsBack magnitude digits exponent = true := by
  unfold nearestAt? at h
  dsimp only at h
  split at h
  next hbelow =>
    split at h
    next habove =>
      rw [← Option.some.inj h]
      exact (Bool.and_eq_true_iff.1 habove).1
    next => rwa [← Option.some.inj h]
  next =>
    split at h
    next habove => rwa [← Option.some.inj h]
    next => cases h

theorem dropZeros_ne_zero {fuel digits : Nat} {exponent : Int} (h : digits ≠ 0) :
    (dropZeros fuel digits exponent).1 ≠ 0 := by
  induction fuel generalizing digits exponent with
  | zero => exact h
  | succ fuel ih =>
      rw [dropZeros]
      split
      next hzero =>
        have hlast : digits % 10 = 0 := by simpa [h] using hzero
        exact ih (by omega)
      next => exact h

/-- Only when no digits are found there is a zero in their place, with no power of ten. -/
theorem shortest_eq_zero (h : 0 < magnitude) (hzero : (shortest magnitude).1 = 0) :
    (shortest magnitude).2 = 0 := by
  unfold shortest at hzero ⊢
  dsimp only at hzero ⊢
  generalize hfound : List.findSome? _ _ = found at hzero ⊢
  cases found with
  | none => rfl
  | some found =>
      obtain ⟨places, _, hplaces⟩ := List.exists_of_findSome?_eq_some hfound
      obtain ⟨digits, hdigits, hpair⟩ := Option.map_eq_some_iff.1 hplaces
      have hdigits_ne : digits ≠ 0 := by
        rintro rfl
        have hreads := readsBack_of_nearestAt? hdigits
        rw [readsBack_zero h] at hreads
        cases hreads
      rw [← hpair, Option.getD_some] at hzero
      exact absurd hzero (dropZeros_ne_zero hdigits_ne)

end Binary64

/-- A number that is no integer is written with a point or an exponent. -/
theorem Json.exists_numeral_of_real (value : Binary64) :
    ∃ numeral : Numeral, numeral.text = value.text.toList ∧
      (numeral.fraction.isSome = true ∨ numeral.exponent.isSome = true) := by
  have hunsigned : IsRealText (if value.magnitude = 0 then "0.0"
      else Binary64.positional (Binary64.shortest value.magnitude).1
        (Binary64.shortest value.magnitude).2).toList := by
    split
    next => exact isRealText_point isRun_zero (fun _ ↦ rfl) isRun_zero
    next hmagnitude =>
      exact isRealText_positional (Binary64.shortest_eq_zero (Nat.pos_of_ne_zero hmagnitude))
  obtain ⟨numeral, hsign, htext, hreal⟩ := hunsigned
  refine ⟨{ numeral with negative := value.negative }, ?_, hreal⟩
  unfold Binary64.text
  dsimp only
  cases value.negative with
  | false =>
      rw [if_neg Bool.false_ne_true, ← htext]
      simp [Numeral.text, hsign]
  | true =>
      rw [if_pos rfl, String.toList_append, ← htext]
      simp [Numeral.text, Numeral.signText, hsign]

/-! ## Reading numbers again -/

namespace Number

open Json

/-- What a number is read as when it was written, or `none` when that is too large. -/
def reread? (value : Number) : Option Number :=
  (readLiteral (value.text.toList.map some)).bind fun read ↦ read.1.number?

theorem endsNumber_nil : EndsNumber [] := nofun

theorem exists_numeral (value : Number) :
    ∃ numeral : Numeral, numeral.text = value.text.toList := by
  cases value with
  | integer value => exact ⟨.ofInt value, Numeral.text_ofInt value⟩
  | real value =>
      obtain ⟨numeral, htext, _⟩ := exists_numeral_of_real value
      exact ⟨numeral, htext⟩

theorem reread?_of_numeral {value : Number} {numeral : Numeral}
    (h : numeral.text = value.text.toList) : value.reread? = numeral.literal.number? := by
  have hread := numeral.readLiteral_text endsNumber_nil
  rw [List.append_nil, h] at hread
  rw [reread?, hread, Option.bind_some]

/-- A number that was written is read up to its end. -/
theorem readLiteral_text (value : Number) {rest : Input} (hrest : EndsNumber rest) :
    ∃ literal, readLiteral (value.text.toList.map some ++ rest) = some (literal, rest) ∧
      literal.number? = value.reread? := by
  obtain ⟨numeral, htext⟩ := value.exists_numeral
  refine ⟨numeral.literal, ?_, (reread?_of_numeral htext).symm⟩
  rw [← htext]
  exact numeral.readLiteral_text hrest

/-- An integer that fits 64 bits is read as itself. -/
theorem reread?_integer {value : Int} (hlow : Int64.minValue.toInt ≤ value)
    (hhigh : value < UInt64.size) : (integer value).reread? = some (.integer value) := by
  rw [reread?_of_numeral (Numeral.text_ofInt value), number?_ofInt hlow hhigh]

/-- A number that is no integer is read as none. -/
theorem reread?_real {value : Binary64} {other : Number}
    (h : (real value).reread? = some other) : ∃ read, other = .real read := by
  obtain ⟨numeral, htext, hreal⟩ := exists_numeral_of_real value
  rw [reread?_of_numeral htext, Literal.number?] at h
  have hliteral : numeral.literal.fraction.isSome = true ∨
      numeral.literal.exponent.isSome = true := by
    simpa [Numeral.literal] using hreal
  split at h
  · split at h
    next hfraction hexponent =>
      rw [hfraction, hexponent] at hliteral
      simp at hliteral
    next =>
      obtain ⟨read, _, heq⟩ := Option.map_eq_some_iff.1 h
      exact ⟨read, heq.symm⟩

end Number

end FlowGate
