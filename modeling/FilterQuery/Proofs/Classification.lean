/-
Which texts are of which kind.

The kind of a value is found by trying one reading after the other. What it is can be said without
reading: the word for null aside, a value is a number when it is written as a numeral and within the
limits for numbers, a date when it is written as a date, and a string otherwise
(`ofValue_eq_number_iff`, `ofValue_eq_date_iff_and_eq_string_iff`).

The two limits are of different kinds. An integer is held exactly, so its digits are counted; any
other numeral is rounded, so what counts is the number denoted, and the limit is where the nearest
binary number becomes infinite.

The order of the readings does not matter: a date begins with a year and a dash, and no numeral has
a dash behind a digit (`Calendar.Written.ofChars?_eq_none`).
-/
import FilterQuery.Proofs.DateGrammar
import FilterQuery.Proofs.Kinds
import FilterQuery.Proofs.Nearest
import FilterQuery.Proofs.NumeralGrammar

set_option autoImplicit false

namespace FilterQuery

open FilterQuery.Text

/-! ## The limits for numbers -/

namespace Numeral

variable (n : Numeral)

/-- The number that a numeral denotes: the digits before the point and those behind it, times the
power of ten of the exponent, with the sign. -/
def value : ℚ :=
  (if n.negative then -1 else 1)
    * (ofDigits n.whole + ofDigits (n.fraction.getD []) / 10 ^ (n.fraction.getD []).length)
    * (10 : ℚ) ^ n.power

/-- Whether a numeral is within the limits for numbers. Sign and digits alone are an integer, which
may have 4300 digits; everything else is rounded, and must not be rounded to infinity. -/
def WithinLimits : Prop :=
  if n.fraction = none ∧ n.exponent = none then n.whole.length ≤ 4300
  else |n.value| < 2 ^ 1024 - 2 ^ 970

theorem isInteger_iff : n.isInteger = true ↔ n.fraction = none ∧ n.exponent = none := by
  rw [isInteger, Bool.and_eq_true, Option.isNone_iff_eq_none, Option.isNone_iff_eq_none]

/-- The digits of a numeral make one coefficient, scaled by their number behind the point. -/
theorem magnitude_toDecimal :
    n.toDecimal.magnitude
      = (ofDigits n.whole + ofDigits (n.fraction.getD []) / 10 ^ (n.fraction.getD []).length)
        * (10 : ℚ) ^ n.power := by
  rw [Decimal.magnitude, toDecimal, ofDigits_append, zpow_sub₀ (by norm_num), zpow_natCast]
  push_cast
  field_simp

theorem value_eq_value_toDecimal : n.value = n.toDecimal.value := by
  have hsign : n.toDecimal.negative = n.negative := rfl
  rw [value, mul_assoc, ← magnitude_toDecimal, Decimal.value, hsign]
  split
  · rw [neg_one_mul]
  · rw [one_mul]

theorem abs_value : |n.value| = n.toDecimal.magnitude := by
  have hnonneg : 0 ≤ n.toDecimal.magnitude :=
    mul_nonneg (Nat.cast_nonneg _) (zpow_nonneg (by norm_num) _)
  rw [value_eq_value_toDecimal, Decimal.value]
  split
  · rw [abs_neg, abs_of_nonneg hnonneg]
  · rw [abs_of_nonneg hnonneg]

/-- **The numbers that can be held are those within the limits.** -/
theorem isHeld_iff : n.isHeld = true ↔ n.WithinLimits := by
  rw [isHeld, WithinLimits]
  by_cases hinteger : n.isInteger = true
  · rw [if_pos hinteger, if_pos (n.isInteger_iff.1 hinteger), decide_eq_true_eq, integerDigitLimit]
  · rw [if_neg hinteger, if_neg (mt n.isInteger_iff.2 hinteger), abs_value,
      Decimal.isFinite_toBinary64_iff]

end Numeral

/-! ## Dates are no numerals -/

namespace Calendar

/-- A date begins with a year and a dash. -/
theorem Written.exists_year {s : List Char} (hs : Written s) :
    ∃ y rest year, s = y ++ '-' :: rest ∧ Figures 4 y year := by
  have hday : ∀ d rest, Day d →
      ∃ y behind year, d ++ rest = y ++ '-' :: behind ∧ Figures 4 y year := by
    rintro _ rest @⟨y, m, d, year, month, day, hyear, -, -, -, -⟩
    exact ⟨y, m ++ '-' :: d ++ rest, year, by simp, hyear⟩
  cases hs with
  | day h =>
      have hfound := hday s [] h
      rwa [List.append_nil] at hfound
  | time h => exact hday _ _ h

theorem isDigit_of_isAsciiDigit {c : Char} (hc : isAsciiDigit c = true) : c.isDigit = true := by
  rw [isAsciiDigit, Bool.and_eq_true, decide_eq_true_eq, decide_eq_true_eq] at hc
  exact Char.isDigit_iff_toNat.2 hc

/-- **No date is a numeral**: a numeral cannot go on with a dash behind the year. -/
theorem Written.ofChars?_eq_none {s : List Char} (hs : Written s) : Numeral.ofChars? s = none := by
  obtain ⟨y, rest, year, rfl, hlength, hascii, -⟩ := hs.exists_year
  have hrow := Numeral.row_of_isDigit fun c hc => isDigit_of_isAsciiDigit (hascii c hc)
  have hne : y ≠ [] := by
    rintro rfl
    cases hlength
  have hdash : digitValue? '-' = none := by decide
  rw [Numeral.ofChars?, Numeral.takeSign_of_unsigned (hrow.unsigned hne _)]
  dsimp only
  rw [hrow.takeDigits_append (Numeral.endsDigits_cons rest hdash)]
  simp [Numeral.takeFraction, Numeral.exponent?]

end Calendar

/-! ## The kinds -/

namespace Kind

theorem isNullWord_iff {settings : Settings} {value : String} :
    isNullWord settings value = true ↔
      lower (trim value.toList) = lower settings.nullWord.toList := by
  rw [isNullWord, decide_eq_true_eq]

theorem isNumber_iff_written {text : List Char} :
    isNumber text = true ↔ ∃ n, Numeral.Written text n ∧ n.WithinLimits := by
  simp only [isNumber_iff, Numeral.ofChars?_eq_some_iff, Numeral.isHeld_iff]

-- the limit lies between these two
example : isNumber "1.7976931348623158e308".toList = true ∧
    isNumber "1.7976931348623159e308".toList = false := by decide +kernel

theorem isNumber_of_written_date {text : List Char} (h : Calendar.Written text) :
    isNumber text = false := by
  rw [isNumber, h.ofChars?_eq_none]

/-- **A value is a number exactly when it is written as a numeral within the limits**, and is not the
word for null. -/
theorem ofValue_eq_number_iff (settings : Settings) (value : String) :
    ofValue settings value = .number ↔
      lower (trim value.toList) ≠ lower settings.nullWord.toList ∧
        ∃ n, Numeral.Written (trim value.toList) n ∧ n.WithinLimits := by
  rw [ne_eq, ← isNullWord_iff, ← isNumber_iff_written, ofValue]
  by_cases hnull : isNullWord settings value = true
  · rw [if_pos hnull]
    exact iff_of_false (by decide) (fun h => h.1 hnull)
  · rw [if_neg hnull]
    by_cases hnumber : isNumber (trim value.toList) = true
    · rw [if_pos hnumber]
      exact iff_of_true rfl ⟨hnull, hnumber⟩
    · rw [if_neg hnumber]
      refine iff_of_false ?_ (fun h => hnumber h.2)
      split <;> decide

/-- **A value is a date exactly when it is written as one**, and a string exactly when it is neither
the word for null nor a number nor a date. -/
theorem ofValue_eq_date_iff_and_eq_string_iff (settings : Settings) (value : String) :
    (ofValue settings value = .date ↔
      lower (trim value.toList) ≠ lower settings.nullWord.toList ∧
        Calendar.Written (trim value.toList)) ∧
    (ofValue settings value = .string ↔
      lower (trim value.toList) ≠ lower settings.nullWord.toList ∧
        (¬ ∃ n, Numeral.Written (trim value.toList) n ∧ n.WithinLimits) ∧
        ¬ Calendar.Written (trim value.toList)) := by
  rw [ne_eq, ← isNullWord_iff, ← isNumber_iff_written, ← Calendar.isDate_iff, ofValue]
  by_cases hnull : isNullWord settings value = true
  · simp [hnull]
  by_cases hdate : Calendar.isDate (trim value.toList) = true
  · -- a date is looked for last, but it cannot be a number
    have hnumber := isNumber_of_written_date (Calendar.isDate_iff.1 hdate)
    simp [hnull, hnumber, hdate]
  · by_cases hnumber : isNumber (trim value.toList) = true
    · simp [hnull, hnumber, hdate]
    · simp [hnull, hnumber, hdate]

end Kind

end FilterQuery
