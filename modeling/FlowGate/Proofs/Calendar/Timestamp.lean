import Mathlib.Algebra.Group.Nat.Defs
import FlowGate.Calendar.Timestamp

/-!
# Timestamps are read back

`read?_text` says that the text of an instant is read as the same instant, whatever its year, its
fraction of a second and its leap second are. The parts of the text are read one after the other:
`readNumber?_paddedDigits` reads a number in front of a character that is no digit, and the year
and the fraction choose how many digits they are written with.
-/

namespace FlowGate.Instant

variable {width limit number value : Nat} {separator c : Char} {rest : List Char} {year : Int}

/-- A digit stands for the number that it was written for. -/
theorem digitValue?_digit (number : Nat) :
    digitValue? (Char.ofNat ('0'.toNat + number % 10)) = some (number % 10) := by
  have hall : ∀ value ∈ List.range 10,
      digitValue? (Char.ofNat ('0'.toNat + value)) = some value := by decide
  exact hall _ (List.mem_range.2 (Nat.mod_lt number (by omega)))

/-- No digit is white space. -/
theorem isBlank_of_digitValue? (h : digitValue? c = some value) : Text.isBlank c = false := by
  have hall : ∀ code ∈ List.range' 48 10, Text.isBlank (Char.ofNat code) = false := by decide
  have hrange : '0' ≤ c ∧ c ≤ '9' := by
    unfold digitValue? at h
    split at h
    · assumption
    · cases h
  have hlow : '0'.toNat ≤ c.toNat := hrange.1
  have hhigh : c.toNat ≤ '9'.toNat := hrange.2
  have hzero : '0'.toNat = 48 := rfl
  have hnine : '9'.toNat = 57 := rfl
  rw [← Char.ofNat_toNat c]
  exact hall _ (List.mem_range'_1.2 ⟨by omega, by omega⟩)

/-- `EndsDigits rest` says no digit stands at the start of the text. -/
def EndsDigits (rest : List Char) : Prop := ∀ c, rest.head? = some c → digitValue? c = none

theorem endsDigits_cons (h : digitValue? c = none) (rest : List Char) : EndsDigits (c :: rest) := by
  intro first hfirst
  cases hfirst
  exact h

/-- Nothing is read where no digit stands or none is asked for. -/
theorem readDigits_of_endsDigits (h : limit = 0 ∨ EndsDigits rest) :
    readDigits limit value rest = (value, 0, rest) := by
  cases limit with
  | zero => rfl
  | succ limit =>
      cases rest with
      | nil => rfl
      | cons c rest =>
          have hends : EndsDigits (c :: rest) := h.resolve_left (by omega)
          have hc : digitValue? c = none := hends c rfl
          simp only [readDigits, hc]

/-- Reading the digits of a number appends them to the number read so far. -/
theorem readDigits_paddedDigits (h : number < 10 ^ width) :
    readDigits (width + limit) value (paddedDigits width number ++ rest) =
      let (result, count, rest) := readDigits limit (value * 10 ^ width + number) rest
      (result, width + count, rest) := by
  -- the last digit is written behind the others, so the induction leaves it to the text behind
  induction width generalizing limit number rest with
  | zero =>
      have hnumber : number = 0 := by omega
      subst hnumber
      simp [paddedDigits]
  | succ width ih =>
      have hpow : 10 ^ (width + 1) = 10 * 10 ^ width := by rw [Nat.pow_succ]; omega
      have hlead : number / 10 < 10 ^ width := by omega
      have hsum : (value * 10 ^ width + number / 10) * 10 + number % 10 =
          value * 10 ^ (width + 1) + number := by
        rw [hpow, Nat.mul_left_comm]
        omega
      rw [show width + 1 + limit = width + (limit + 1) by omega, paddedDigits, List.append_assoc,
        ih hlead]
      simp only [List.cons_append, List.nil_append, readDigits, digitValue?_digit, hsum]
      rw [Nat.add_assoc width 1, Nat.add_comm 1]

/-- A padded number is read up to its last digit. -/
theorem readNumber?_paddedDigits (hpos : 0 < width) (hle : width ≤ limit)
    (h : number < 10 ^ width) (hends : width = limit ∨ EndsDigits rest) :
    readNumber? limit (paddedDigits width number ++ rest) = some (number, rest) := by
  obtain ⟨more, rfl⟩ := Nat.exists_eq_add_of_le hle
  have hrest : readDigits more number rest = (number, 0, rest) :=
    readDigits_of_endsDigits (hends.imp_left fun heq ↦ by omega)
  obtain ⟨before, rfl⟩ := Nat.exists_eq_succ_of_ne_zero (Nat.ne_of_gt hpos)
  simp only [readNumber?, readDigits_paddedDigits h, Nat.zero_mul, Nat.zero_add, hrest]

/-- A padded number starts with a digit. -/
theorem exists_digit_of_paddedDigits (hpos : 0 < width) (number : Nat) :
    ∃ c digits value, paddedDigits width number = c :: digits ∧ digitValue? c = some value := by
  induction width generalizing number with
  | zero => omega
  | succ width ih =>
      rw [paddedDigits]
      cases width with
      | zero => exact ⟨_, _, _, rfl, digitValue?_digit number⟩
      | succ width =>
          obtain ⟨c, digits, value, hdigits, hc⟩ := ih (by omega) (number / 10)
          rw [hdigits]
          exact ⟨c, _, value, rfl, hc⟩

theorem skipBlanks_of_not_blank (h : Text.isBlank c = false) (rest : List Char) :
    skipBlanks (c :: rest) = c :: rest := by
  rw [skipBlanks, List.dropWhile_cons, h]
  rfl

/-- No white space is skipped in front of a number. -/
theorem skipBlanks_paddedDigits (hpos : 0 < width) (number : Nat) (rest : List Char) :
    skipBlanks (paddedDigits width number ++ rest) = paddedDigits width number ++ rest := by
  obtain ⟨c, digits, value, hdigits, hc⟩ := exists_digit_of_paddedDigits hpos number
  rw [hdigits]
  exact skipBlanks_of_not_blank (isBlank_of_digitValue? hc) _

/-- A part of two digits is read behind its separator. -/
theorem readPart?_paddedDigits (hblank : Text.isBlank separator = false) (h : number < 100) :
    readPart? separator (separator :: (paddedDigits 2 number ++ rest)) = some (number, rest) := by
  have hnumber : readNumber? 2 (paddedDigits 2 number ++ rest) = some (number, rest) :=
    readNumber?_paddedDigits (by omega) (by omega) h (.inl rfl)
  rw [readPart?, skipBlanks_of_not_blank hblank]
  simp only [if_pos, skipBlanks_paddedDigits (by omega : 0 < 2), hnumber]

/-- A digit of a padded number is the digit that the library writes. -/
theorem digitChar_mod (number : Nat) :
    Nat.digitChar (number % 10) = Char.ofNat ('0'.toNat + number % 10) := by
  have hall : ∀ value ∈ List.range 10, Nat.digitChar value = Char.ofNat ('0'.toNat + value) := by
    decide
  exact hall _ (List.mem_range.2 (Nat.mod_lt number (by omega)))

/-- The digits of a number that has exactly so many are those of the padded number. -/
theorem toDigits_eq_paddedDigits (hlow : 10 ^ width ≤ number) (hhigh : number < 10 ^ (width + 1)) :
    Nat.toDigits 10 number = paddedDigits (width + 1) number := by
  induction width generalizing number with
  | zero =>
      have hnumber : number % 10 = number := Nat.mod_eq_of_lt (by omega)
      have hdigit := digitChar_mod number
      rw [hnumber] at hdigit
      rw [Nat.toDigits_of_lt_base (by omega), hdigit, paddedDigits, hnumber]
      rfl
  | succ width ih =>
      have hpow : 10 ^ (width + 1) = 10 * 10 ^ width := by rw [Nat.pow_succ]; omega
      have hpow' : 10 ^ (width + 1 + 1) = 10 * 10 ^ (width + 1) := by rw [Nat.pow_succ]; omega
      have hpos : 0 < 10 ^ width := Nat.pow_pos (by omega)
      have hlead : Nat.toDigits 10 (number / 10) = paddedDigits (width + 1) (number / 10) :=
        ih (by omega) (by omega)
      rw [Nat.toDigits_of_base_le (by omega) (by omega), hlead, digitChar_mod]
      rfl

/-- A year of the calendar is written with as many digits as it has, but at least four. -/
theorem exists_width_of_yearDigits (h : number < 1000000) :
    ∃ width, 0 < width ∧ number < 10 ^ width ∧ yearDigits number = paddedDigits width number := by
  have htext : (toString number).toList = Nat.toDigits 10 number := by simp
  unfold yearDigits
  by_cases hfour : number < 10000
  · exact ⟨4, by omega, hfour, if_pos hfour⟩
  rw [if_neg hfour, htext]
  by_cases hfive : number < 100000
  · exact ⟨5, by omega, hfive, toDigits_eq_paddedDigits (by omega) hfive⟩
  · exact ⟨6, by omega, h, toDigits_eq_paddedDigits (by omega) h⟩

theorem length_paddedDigits (width number : Nat) : (paddedDigits width number).length = width := by
  induction width generalizing number with
  | zero => rfl
  | succ width ih => simp [paddedDigits, ih]

/-- The digits behind the sign of a year are read up to the last. -/
theorem readNumber?_yearDigits (h : number < 1000000) (hends : EndsDigits rest) :
    readNumber? (yearDigits number ++ rest).length (yearDigits number ++ rest) =
      some (number, rest) := by
  obtain ⟨width, hpos, hnumber, hdigits⟩ := exists_width_of_yearDigits h
  have hlength : width ≤ (paddedDigits width number ++ rest).length := by
    rw [List.length_append, length_paddedDigits]
    omega
  rw [hdigits, readNumber?_paddedDigits hpos hlength hnumber (.inr hends)]

/-- A year without a sign has at most four digits. -/
theorem readYear?_of_digit (h : digitValue? c = some value) (rest : List Char) :
    readYear? (c :: rest) =
      (readNumber? 4 (c :: rest)).map fun (value, rest) ↦ ((value : Int), rest) := by
  rw [readYear?, skipBlanks_of_not_blank (isBlank_of_digitValue? h)]
  split
  next heq =>
    cases heq
    cases h
  next heq =>
    cases heq
    cases h
  next => rfl

/-- The text of a year is read as the year. -/
theorem readYear?_yearText (hlow : -1000000 < year) (hhigh : year < 1000000)
    (hends : EndsDigits rest) : readYear? (yearText year ++ rest) = some (year, rest) := by
  have habs : year.natAbs < 1000000 := by omega
  unfold yearText
  by_cases hfour : 0 ≤ year ∧ year < 10000
  · have hnumber : readNumber? 4 (paddedDigits 4 year.toNat ++ rest) = some (year.toNat, rest) :=
      readNumber?_paddedDigits (by omega) (by omega) (by omega) (.inl rfl)
    obtain ⟨c, digits, value, hdigits, hc⟩ := exists_digit_of_paddedDigits (by omega : 0 < 4)
      year.toNat
    rw [if_pos hfour]
    rw [hdigits, List.cons_append] at hnumber ⊢
    rw [readYear?_of_digit hc, hnumber]
    simp only [Option.map_some, Int.toNat_of_nonneg hfour.1]
  rw [if_neg hfour]
  by_cases hnegative : year < 0
  · rw [if_pos hnegative, List.cons_append, readYear?,
      skipBlanks_of_not_blank (by decide : Text.isBlank '-' = false)]
    simp only [readNumber?_yearDigits habs hends, Option.map_some]
    rw [show -(year.natAbs : Int) = year by omega]
  · rw [if_neg hnegative, List.cons_append, readYear?,
      skipBlanks_of_not_blank (by decide : Text.isBlank '+' = false)]
    simp only [readNumber?_yearDigits habs hends, Option.map_some]
    rw [show (year.natAbs : Int) = year by omega]

/-- A fraction of at most nine digits is read in nanoseconds. -/
theorem readFraction?_paddedDigits (hpos : 0 < width) (hle : width ≤ 9) (h : number < 10 ^ width)
    (hends : EndsDigits rest) :
    readFraction? ('.' :: (paddedDigits width number ++ rest)) =
      some (number * Nat.pow 10 (9 - width), rest) := by
  obtain ⟨more, hmore⟩ := Nat.exists_eq_add_of_le hle
  have hdigits : readDigits 9 0 (paddedDigits width number ++ rest) = (number, width, rest) := by
    rw [hmore, readDigits_paddedDigits h, Nat.zero_mul, Nat.zero_add,
      readDigits_of_endsDigits (.inr hends)]
    rfl
  have hdrop : rest.dropWhile (fun c ↦ (digitValue? c).isSome) = rest := by
    cases rest with
    | nil => rfl
    | cons c rest => rw [List.dropWhile_cons, hends c rfl]; rfl
  obtain ⟨before, rfl⟩ := Nat.exists_eq_succ_of_ne_zero (Nat.ne_of_gt hpos)
  simp only [readFraction?, hdigits, hdrop]

/-- The fraction of a second loses nothing of it. -/
theorem readFraction?_fractionText (h : number < 1000000000) :
    readFraction? (fractionText number ++ ['Z']) = some (number, ['Z']) := by
  have hends : EndsDigits ['Z'] := endsDigits_cons (by decide) []
  unfold fractionText
  by_cases hzero : number = 0
  · rw [if_pos hzero, hzero]
    rfl
  rw [if_neg hzero]
  by_cases hthree : number % 1000000 = 0
  · rw [if_pos hthree, List.cons_append,
      readFraction?_paddedDigits (by omega) (by omega) (by omega) hends,
      show number / 1000000 * Nat.pow 10 (9 - 3) = number by
        show number / 1000000 * 1000000 = number
        omega]
  rw [if_neg hthree]
  by_cases hsix : number % 1000 = 0
  · rw [if_pos hsix, List.cons_append,
      readFraction?_paddedDigits (by omega) (by omega) (by omega) hends,
      show number / 1000 * Nat.pow 10 (9 - 6) = number by
        show number / 1000 * 1000 = number
        omega]
  · rw [if_neg hsix, List.cons_append,
      readFraction?_paddedDigits (by omega) (by omega) h hends]
    rw [show number * Nat.pow 10 (9 - 9) = number from Nat.mul_one number]

/-- A date and a time in UTC give their instant. -/
theorem ofLocal?_utc (instant : Instant) :
    ofLocal? instant.date instant.time 0 = some instant := by
  obtain ⟨date, time, hdate, htime⟩ := instant
  obtain ⟨hour, minute, second, nanosecond⟩ := time
  have hhour : hour < 24 := htime.1
  have hminute : minute < 60 := htime.2.1
  have hminutes :
      (((hour : Int) * 60 + minute - 0) % minutesPerDay).toNat = hour * 60 + minute := by
    unfold minutesPerDay
    omega
  have hbefore : ¬ (hour : Int) * 60 + minute - 0 < 0 := by omega
  have hafter : ¬ minutesPerDay ≤ (hour : Int) * 60 + minute - 0 := by
    unfold minutesPerDay
    omega
  have hhours : (hour * 60 + minute) / 60 = hour := by omega
  have hrest : (hour * 60 + minute) % 60 = minute := by omega
  simp only [ofLocal?, hdate, htime, and_self, if_true, hbefore, hafter, if_false, hminutes, hhours,
    hrest, dif_pos]

/-- The text of an instant is read as the instant. -/
theorem read?_text (instant : Instant) : read? instant.text = some instant := by
  obtain ⟨hyear, hyear', _, hmonth, _, hday⟩ := instant.date_valid
  obtain ⟨hhour, hminute, hsecond, hnanosecond⟩ := instant.time_valid
  have hday' : instant.date.day < 100 := by
    have hmost : Date.daysInMonth instant.date.year instant.date.month ≤ 31 := by
      unfold Date.daysInMonth
      split <;> split <;> omega
    omega
  have hdash : Text.isBlank '-' = false := by decide
  have hcolon : Text.isBlank ':' = false := by decide
  have htext : read? instant.text = readCharacters? instant.characters := by
    rw [read?, text, String.toList_ofList]
  rw [htext, characters, readCharacters?]
  simp only [List.append_assoc, List.cons_append]
  rw [readYear?_yearText (by omega) (by omega) (endsDigits_cons (by decide) _)]
  simp only [bind, Option.bind]
  rw [readPart?_paddedDigits hdash (by omega)]
  simp only
  rw [readPart?_paddedDigits hdash hday']
  simp only
  rw [skipBlanks_paddedDigits (by omega),
    readNumber?_paddedDigits (by omega) (by omega) (by omega) (.inl rfl)]
  simp only
  rw [readPart?_paddedDigits hcolon (by omega)]
  simp only
  rw [readPart?_paddedDigits hcolon (by omega)]
  simp only
  rw [readFraction?_fractionText hnanosecond]
  exact ofLocal?_utc instant

end FlowGate.Instant
