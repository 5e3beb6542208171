/-
What the values of a kind are read as.

The kind of a value and its reading are found by separate walks over its text, and reading keeps what
was found: `Keeps` says what stands behind each value in its text, without mentioning either walk. An
integer stands behind a sign and digits, and is exactly the number that they denote, in any script and
with any leading zeros. Every other numeral stands behind the finite binary number nearest to it, and
dates and strings behind themselves.

Integers are exact on the way back as well. They are written with the digits they need, which are no
more than they were read with, so the limit on digits is kept, and the text is found to be a number
and read as the same integer (`exists_read_of_shared`).
-/
import FilterQuery.Proofs.Classification
import FilterQuery.Proofs.Totality

set_option autoImplicit false

namespace FilterQuery

open FilterQuery.Text

/-! ## Integers among the numerals -/

namespace Numeral

/-- A sign, that may be missing, and a row of digits. -/
inductive SignedDigits : List Char → Bool → List Nat → Prop
  | mk {sign row : List Char} {negative : Bool} {digits : List Nat} (hsign : Sign sign negative)
      (hrow : Row row digits) (hne : row ≠ []) : SignedDigits (sign ++ row) negative digits

/-- Sign and digits are a numeral without point and exponent. -/
theorem SignedDigits.written {s : List Char} {negative : Bool} {digits : List Nat}
    (hs : SignedDigits s negative digits) : Written s ⟨negative, digits, none, none⟩ := by
  obtain @⟨sign, row, _, _, hsign, hrow, hne⟩ := hs
  have hwritten := Written.mk hsign (.whole hrow hne) .absent
  rwa [List.append_nil] at hwritten

/-- An integer is sign and digits. -/
theorem Written.signedDigits {s : List Char} {n : Numeral} (hs : Written s n)
    (hinteger : n.isInteger = true) : SignedDigits s n.negative n.whole := by
  obtain ⟨hfraction, hexponent⟩ := n.isInteger_iff.1 hinteger
  obtain ⟨hsign, hmantissa, hpower⟩ := hs
  cases hfraction
  cases hexponent
  cases hpower
  cases hmantissa with
  | whole hrow hne =>
      rw [List.append_nil]
      exact .mk hsign hrow hne

theorem isInteger_of_signedDigits {s : List Char} {n : Numeral} {negative : Bool} {digits : List Nat}
    (hn : ofChars? s = some n) (hs : SignedDigits s negative digits) : n.isInteger = true := by
  have hother := ofChars?_eq_some_iff.2 hs.written
  rw [hn] at hother
  cases hother
  rfl

end Numeral

namespace Kind

/-! ## What reading keeps -/

/-- What stands behind a value in the text that it was read from, kind by kind. -/
inductive Keeps : Kind → String → Scalar → Prop
  | null {t : String} : Keeps .null t .null
  | int {t : String} {negative : Bool} {digits : List Nat}
      (hdigits : Numeral.SignedDigits (trim t.toList) negative digits)
      (hlimit : digits.length ≤ 4300) :
      Keeps .number t (.int (if negative then -(ofDigits digits : Int) else ofDigits digits))
  | float {t : String} {n : Numeral} {x : Binary64}
      (hother : ∀ negative digits, ¬ Numeral.SignedDigits (trim t.toList) negative digits)
      (hnumeral : Numeral.Written (trim t.toList) n) (hfinite : x.isFinite = true)
      (hnearest : Binary64.IsNearest n.value x) : Keeps .number t (.float x)
  | date {t : String} : Keeps .date t (.text t)
  | string {t : String} : Keeps .string t (.text t)

/-- **A number that can be held is read as what stands in its text.** -/
theorem keeps_of_readNumber {t : String} {v : Scalar} (hnumber : isNumber (trim t.toList) = true)
    (hread : readNumber t = .ok v) : Keeps .number t v := by
  obtain ⟨n, hn, hheld⟩ := isNumber_iff.1 hnumber
  have hwritten := Numeral.ofChars?_eq_some_iff.1 hn
  rw [Numeral.isHeld] at hheld
  rw [readNumber, hn] at hread
  dsimp only at hread
  by_cases hinteger : n.isInteger = true
  · rw [if_pos hinteger, decide_eq_true_eq] at hheld
    rw [if_neg (by simp [hinteger]), if_pos hheld] at hread
    cases hread
    exact .int (hwritten.signedDigits hinteger) hheld
  · rw [if_neg hinteger] at hheld
    rw [if_pos (by simp [hinteger])] at hread
    cases hread
    have hother : ∀ negative digits, ¬ Numeral.SignedDigits (trim t.toList) negative digits :=
      fun _ _ h => hinteger (Numeral.isInteger_of_signedDigits hn h)
    -- what was rounded is the numeral's own value
    refine .float hother hwritten hheld ?_
    rw [Numeral.value_eq_value_toDecimal]
    exact Decimal.isNearest_toBinary64 hheld

variable {settings : Settings}

/-- One value of its own kind. -/
theorem keeps_of_readOne {kind : Kind} {t : String} {v : Scalar} (hkind : ofValue settings t = kind)
    (hread : kind.readOne t = .ok v) : kind.Keeps t v := by
  cases kind with
  | null =>
      cases hread
      exact .null
  | number => exact keeps_of_readNumber (isNumber_of_ofValue hkind) hread
  | date =>
      cases hread
      exact .date
  | string =>
      cases hread
      exact .string

theorem forall₂_keeps_of_read {kind : Kind} {texts : List String} {values : List Scalar}
    (hkind : ∀ t ∈ texts, ofValue settings t = kind) (hread : kind.read texts = .ok values) :
    List.Forall₂ kind.Keeps texts values := by
  have hall := read_eq_ok_iff.1 hread
  clear hread
  induction hall with
  | nil => exact .nil
  | @cons t v texts values hv _ ih =>
      obtain ⟨ht, htexts⟩ := List.forall_mem_cons.1 hkind
      exact .cons (keeps_of_readOne ht hv) (ih htexts)

/-! ## Integers written and read again -/

theorem spell_int {n : Int} : Predicate.spell settings (.scalar (.int n)) = toString n := by
  simp [Predicate.spell, Datum.plain, Scalar.plain]

/-- An integer that was read is read again from what it is written as. -/
theorem read_toString {n : Int} (hn : (Scalar.int n).IsNumber) :
    Kind.number.read [toString n] = .ok [.int n] := by
  have hvalue : Kind.number.IsValue .standard (.int n) := hn
  have hread := readOne_spell hvalue
  rw [spell_int] at hread
  exact read_eq_ok_iff.2 (.cons hread .nil)

theorem ofValue_toString {n : Int} (hn : (Scalar.int n).IsNumber)
    (hnull : ¬ isNullWord settings (toString n) = true) :
    ofValue settings (toString n) = .number := by
  have hvalue : Kind.number.IsValue settings (.int n) := hn
  have hkind := ofValue_spell_iff hvalue
  rw [spell_int] at hkind
  exact hkind.2 fun _ => hnull

/-- Only numbers are read as integers. -/
theorem IsValue.isNumber_of_int {kind : Kind} {n : Int} (h : kind.IsValue settings (.int n)) :
    (Scalar.int n).IsNumber := by
  rcases h.cases with ⟨-, hnull, -⟩ | ⟨-, hnumber⟩ | ⟨t, htext, -, -⟩
  · cases hnull
  · exact hnumber
  · cases htext

/-- **Values of one kind are read, and reading keeps what was found.** An integer among them can be
written, and what is written is a number again unless it is the word for null, and is read as the same
integer. -/
theorem exists_read_of_shared {texts : List String} {kind : Kind}
    (hshared : shared? settings texts = .ok (some kind)) :
    ∃ values, kind.read texts = .ok values ∧ List.Forall₂ kind.Keeps texts values ∧
      ∀ n : Int, .int n ∈ values →
        (Scalar.int n).isWritable = true ∧
        Predicate.spell settings (.scalar (.int n)) = toString n ∧
        (¬ isNullWord settings (toString n) = true → ofValue settings (toString n) = .number) ∧
        Kind.number.read [toString n] = .ok [.int n] := by
  have hne : texts ≠ [] := by
    rintro rfl
    cases hshared
  have hkind := (shared?_eq_some_iff hne).1 hshared
  obtain ⟨values, hread⟩ := exists_read hkind
  refine ⟨values, hread, forall₂_keeps_of_read hkind hread, ?_⟩
  intro n hn
  have hnumber := (exists_mem_of_mem_read hkind hread _ hn).1.isNumber_of_int
  exact ⟨Scalar.isWritable_of_isNumber hnumber, spell_int, ofValue_toString hnumber,
    read_toString hnumber⟩

/-- Blanks, leading zeros, a sign and the digits of another script. -/
theorem exists_read_of_mixed_scripts :
    shared? .standard [" 007 ", "-٤٢", "+1.5"] = .ok (some .number) ∧
      ∃ values, Kind.number.read [" 007 ", "-٤٢", "+1.5"] = .ok values ∧
        List.Forall₂ Kind.number.Keeps [" 007 ", "-٤٢", "+1.5"] values ∧
        values.take 2 = [.int 7, .int (-42)] := by
  have hshared : shared? .standard [" 007 ", "-٤٢", "+1.5"] = .ok (some .number) := by
    decide +kernel
  obtain ⟨values, hread, hkeeps, -⟩ := exists_read_of_shared hshared
  refine ⟨hshared, values, hread, hkeeps, ?_⟩
  have hvalues : Kind.number.read [" 007 ", "-٤٢", "+1.5"]
      = .ok [.int 7, .int (-42), .float (Decimal.toBinary64 ⟨false, 15, -1⟩)] := by decide +kernel
  rw [hvalues] at hread
  cases hread
  rfl

end Kind

end FilterQuery
