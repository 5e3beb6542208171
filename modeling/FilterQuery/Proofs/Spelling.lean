/-
Written numbers are numerals.

A `Spelling` is a numeral in the form in which numbers are written: digits of ASCII, a minus sign
only, a small exponent mark. It keeps to the grammar of numerals and is therefore read back, with the
same parts (`ofChars?_text`), and everything else about a written number follows from its having a
spelling: it has no blank, no character outside a short list, and it is the numeral of its parts.

Then the numbers are given theirs. An integer is its digits (`exists_spelling_int`). A binary number
is the layout of a decimal number, as a plain fraction or in scientific notation; the two differ in
where the point stands and in the zeros around the digits, and both are worth the digits times ten
to the exponent of the first one less the digits behind it. That common value is the bridge from
`Shortest.layout` to `Decimal.toBinary64_congr` (`exists_spelling_float`).
-/
import FilterQuery.Proofs.DecimalValue
import FilterQuery.Proofs.NumeralGrammar
import FilterQuery.Text.Blank

set_option autoImplicit false

namespace FilterQuery.Numeral

open FilterQuery.Text

/-! ## Spellings -/

/-- The parts of a written number. -/
structure Spelling where
  negative : Bool
  whole : List Char
  fraction : Option (List Char)
  exponent : Option (Bool × List Char)
  whole_ne_nil : whole ≠ []
  isDigit_whole : ∀ c ∈ whole, c.isDigit = true
  isDigit_fraction : ∀ ds ∈ fraction, ∀ c ∈ ds, c.isDigit = true
  exponent_ne_nil : ∀ e ∈ exponent, e.2 ≠ []
  isDigit_exponent : ∀ e ∈ exponent, ∀ c ∈ e.2, c.isDigit = true

namespace Spelling

def signText (negative : Bool) : List Char :=
  if negative then ['-'] else []

def fractionText : Option (List Char) → List Char
  | none => []
  | some ds => '.' :: ds

def exponentText : Option (Bool × List Char) → List Char
  | none => []
  | some (negative, ds) => 'e' :: (if negative then '-' else '+') :: ds

/-- The number without its sign, as it is written. -/
def unsignedText (s : Spelling) : List Char :=
  s.whole ++ (fractionText s.fraction ++ exponentText s.exponent)

/-- The number as it is written. -/
def text (s : Spelling) : List Char :=
  signText s.negative ++ s.unsignedText

/-- The numeral with these parts. -/
def numeral (s : Spelling) : Numeral where
  negative := s.negative
  whole := s.whole.map asciiDigitValue
  fraction := s.fraction.map (·.map asciiDigitValue)
  exponent := s.exponent.map fun e => (e.1, e.2.map asciiDigitValue)

/-! ## Reading a spelling -/

theorem sign_signText (negative : Bool) : Sign (signText negative) negative := by
  cases negative with
  | false => exact .absent
  | true => exact .minus

theorem mantissa_text (s : Spelling) :
    Mantissa (s.whole ++ fractionText s.fraction) s.numeral.whole s.numeral.fraction := by
  have hwhole : Row s.whole s.numeral.whole := row_of_isDigit s.isDigit_whole
  rw [numeral]
  cases hf : s.fraction with
  | none =>
      rw [fractionText, List.append_nil]
      exact .whole hwhole s.whole_ne_nil
  | some ds => exact .pointed hwhole s.whole_ne_nil (row_of_isDigit (s.isDigit_fraction ds hf))

theorem exponent_text (s : Spelling) : Exponent (exponentText s.exponent) s.numeral.exponent := by
  rw [numeral]
  cases he : s.exponent with
  | none => exact .absent
  | some e =>
      obtain ⟨negative, ds⟩ := e
      have hrow := row_of_isDigit (s.isDigit_exponent (negative, ds) he)
      have hne := s.exponent_ne_nil (negative, ds) he
      -- an exponent is written with its sign, also when it is not negative
      cases negative with
      | false => exact .marked (.inl rfl) .plus hrow hne
      | true => exact .marked (.inl rfl) .minus hrow hne

/-- **A spelling is read as the numeral of its parts.** -/
theorem ofChars?_text (s : Spelling) : ofChars? s.text = some s.numeral := by
  rw [ofChars?_eq_some_iff, text, unsignedText, ← List.append_assoc s.whole]
  exact .mk (sign_signText s.negative) s.mantissa_text s.exponent_text

/-! ## The characters of a spelling -/

/-- The characters that occur in written numbers beside the digits. -/
def marks : List Char := ['.', 'e', '+', '-']

theorem mem_text {s : Spelling} {c : Char} (hc : c ∈ s.text) : c.isDigit = true ∨ c ∈ marks := by
  rw [text, unsignedText, List.mem_append, List.mem_append, List.mem_append] at hc
  rcases hc with hsign | hwhole | hfraction | hexponent
  · right
    cases hn : s.negative <;> rw [hn] at hsign
    · cases hsign
    · rw [List.mem_singleton.1 hsign]
      decide
  · exact Or.inl (s.isDigit_whole c hwhole)
  · cases hf : s.fraction with
    | none => rw [hf] at hfraction; cases hfraction
    | some ds =>
        rw [hf, fractionText, List.mem_cons] at hfraction
        rcases hfraction with rfl | hds
        · exact Or.inr (by decide)
        · exact Or.inl (s.isDigit_fraction ds hf c hds)
  · cases he : s.exponent with
    | none => rw [he] at hexponent; cases hexponent
    | some e =>
        obtain ⟨negative, ds⟩ := e
        rw [he, exponentText, List.mem_cons, List.mem_cons] at hexponent
        rcases hexponent with rfl | hsign | hds
        · exact Or.inr (by decide)
        · right
          rw [hsign]
          cases negative <;> decide
        · exact Or.inl (s.isDigit_exponent (negative, ds) he c hds)

/-! ## Giving a spelling a sign -/

/-- The same spelling with another sign. -/
def withSign (s : Spelling) (negative : Bool) : Spelling := { s with negative }

theorem text_withSign (s : Spelling) (negative : Bool) :
    (s.withSign negative).text = signText negative ++ s.unsignedText := rfl

end Spelling

/-! ## Integers -/

/-- The spelling of digits alone. -/
def Spelling.ofNat (negative : Bool) (n : Nat) : Spelling where
  negative := negative
  whole := Nat.toDigits 10 n
  fraction := none
  exponent := none
  whole_ne_nil := Nat.toDigits_ne_nil
  isDigit_whole := isDigit_of_mem_toDigits
  isDigit_fraction := by rintro _ ⟨⟩
  exponent_ne_nil := by rintro _ ⟨⟩
  isDigit_exponent := by rintro _ ⟨⟩

/-- **An integer is written as a numeral that denotes it**, with no more digits than it needs. -/
theorem exists_spelling_int (n : Int) :
    ∃ s : Spelling, (toString n).toList = s.text ∧ s.numeral.isInteger = true ∧
      s.numeral.toInt = n ∧ s.numeral.whole.length = (Nat.toDigits 10 n.natAbs).length := by
  refine ⟨Spelling.ofNat (decide (n < 0)) n.natAbs, ?_, rfl, ?_, List.length_map _⟩
  · have htext : (Spelling.ofNat (decide (n < 0)) n.natAbs).text
        = Spelling.signText (decide (n < 0)) ++ Nat.toDigits 10 n.natAbs := by
      simp [Spelling.text, Spelling.unsignedText, Spelling.ofNat, Spelling.fractionText,
        Spelling.exponentText]
    rw [htext, Int.toString_eq_repr, Int.repr_eq_if]
    by_cases hn : 0 ≤ n
    · rw [if_pos hn, Nat.toList_repr, show n.toNat = n.natAbs by omega,
        decide_eq_false (by omega)]
      rfl
    · rw [if_neg hn, String.toList_append, Nat.toList_repr, show (-n).toNat = n.natAbs by omega,
        decide_eq_true (by omega)]
      rfl
  · have hdigits : ofDigits (Spelling.ofNat (decide (n < 0)) n.natAbs).numeral.whole = n.natAbs :=
      ofDigits_toDigits n.natAbs
    rw [toInt, hdigits, Spelling.numeral, Spelling.ofNat]
    split
    · next hneg => have := of_decide_eq_true hneg; omega
    · next hneg =>
        have hpos : ¬ n < 0 := by simpa using hneg
        omega

/-! ## Written numbers that are no integers -/

/-- A text that is a written number without a sign, no integer, and worth `value`. -/
def Spells (text : List Char) (value : ℚ) : Prop :=
  ∃ s : Spelling, s.negative = false ∧ s.unsignedText = text ∧ s.numeral.isInteger = false ∧
    s.numeral.toDecimal.magnitude = value

/-- The magnitude of a written number: all its digits, times ten to the power of its exponent less
the number of digits behind the point. -/
theorem Spelling.magnitude_eq (s : Spelling) :
    s.numeral.toDecimal.magnitude
      = (ofDigits ((s.whole ++ s.fraction.getD []).map asciiDigitValue) : ℚ)
        * (10 : ℚ) ^ (s.numeral.power - ((s.fraction.getD []).length : ℤ)) := by
  have hfraction : s.numeral.fraction.getD [] = (s.fraction.getD []).map asciiDigitValue := by
    cases hf : s.fraction <;> simp [Spelling.numeral, hf]
  rw [Decimal.magnitude, toDecimal, hfraction, List.length_map, List.map_append]
  rfl

/-- A plain fraction. -/
theorem spells_pointed {whole fraction : List Char} (hne : whole ≠ [])
    (hdigits : ∀ c ∈ whole ++ fraction, c.isDigit = true) :
    Spells (whole ++ '.' :: fraction)
      ((ofDigits ((whole ++ fraction).map asciiDigitValue) : ℚ)
        * (10 : ℚ) ^ (-(fraction.length : ℤ))) := by
  let s : Spelling := {
    negative := false, whole, fraction := some fraction, exponent := none
    whole_ne_nil := hne
    isDigit_whole := fun c hc => hdigits c (List.mem_append_left _ hc)
    isDigit_fraction := by rintro _ ⟨⟩; exact fun c hc => hdigits c (List.mem_append_right _ hc)
    exponent_ne_nil := by rintro _ ⟨⟩
    isDigit_exponent := by rintro _ ⟨⟩ }
  refine ⟨s, rfl, ?_, rfl, ?_⟩
  · simp [s, Spelling.unsignedText, Spelling.fractionText, Spelling.exponentText]
  · have hpower : s.numeral.power = 0 := rfl
    rw [s.magnitude_eq, hpower, zero_sub]
    rfl

/-- The digits of an exponent: at least two. -/
def exponentDigits (n : Nat) : List Char :=
  if (Nat.toDigits 10 n).length < 2 then '0' :: Nat.toDigits 10 n else Nat.toDigits 10 n

theorem isDigit_of_mem_exponentDigits {n : Nat} : ∀ c ∈ exponentDigits n, c.isDigit = true := by
  intro c hc
  rw [exponentDigits] at hc
  split at hc
  · rcases List.mem_cons.1 hc with rfl | h
    · decide
    · exact isDigit_of_mem_toDigits c h
  · exact isDigit_of_mem_toDigits c hc

theorem exponentDigits_ne_nil (n : Nat) : exponentDigits n ≠ [] := by
  rw [exponentDigits]
  split
  · exact List.cons_ne_nil _ _
  · exact Nat.toDigits_ne_nil

theorem ofDigits_exponentDigits (n : Nat) :
    ofDigits ((exponentDigits n).map asciiDigitValue) = n := by
  rw [exponentDigits]
  split
  · rw [List.map_cons, ofDigits_cons, ofDigits_toDigits]
    simp [asciiDigitValue]
  · exact ofDigits_toDigits n

/-- Scientific notation, with or without a point. -/
theorem spells_powered {whole : List Char} {fraction : Option (List Char)} (hne : whole ≠ [])
    (hdigits : ∀ c ∈ whole ++ fraction.getD [], c.isDigit = true) (x : ℤ) :
    Spells (whole ++ (Spelling.fractionText fraction ++
        'e' :: (if x < 0 then '-' else '+') :: exponentDigits x.natAbs))
      ((ofDigits ((whole ++ fraction.getD []).map asciiDigitValue) : ℚ)
        * (10 : ℚ) ^ (x - ((fraction.getD []).length : ℤ))) := by
  let s : Spelling := {
    negative := false, whole, fraction, exponent := some (decide (x < 0), exponentDigits x.natAbs)
    whole_ne_nil := hne
    isDigit_whole := fun c hc => hdigits c (List.mem_append_left _ hc)
    isDigit_fraction := by
      rintro ds hds c hc
      refine hdigits c (List.mem_append_right _ ?_)
      rw [Option.mem_def.1 hds]
      exact hc
    exponent_ne_nil := by rintro _ ⟨⟩; exact exponentDigits_ne_nil _
    isDigit_exponent := by rintro _ ⟨⟩; exact isDigit_of_mem_exponentDigits }
  refine ⟨s, rfl, ?_, ?_, ?_⟩
  · simp [s, Spelling.unsignedText, Spelling.exponentText]
  · simp [s, Spelling.numeral, isInteger]
  · have hpower : s.numeral.power = x := by
      have hsize := ofDigits_exponentDigits x.natAbs
      by_cases hx : x < 0
      · simp only [s, Spelling.numeral, power, Option.map_some, hsize, decide_eq_true hx, if_true]
        omega
      · simp only [s, Spelling.numeral, power, Option.map_some, hsize, decide_eq_false hx,
          Bool.false_eq_true, if_false]
        omega
    rw [s.magnitude_eq, hpower]

/-! ## The layouts of a decimal number

All of them are worth the number of their digits, times ten to the exponent `x` of the first digit
less the number of digits that follow it. They differ in where the point stands and in the zeros
that fill the gap between the point and the digits. -/

open Shortest

section Layout

variable {ds : List Char}

theorem isDigit_append_zeros (hds : ∀ c ∈ ds, c.isDigit = true) (n : Nat) :
    ∀ c ∈ ds ++ List.replicate n '0', c.isDigit = true := by
  intro c hc
  rcases List.mem_append.1 hc with h | h
  · exact hds c h
  · rw [List.eq_of_mem_replicate h]
    decide

theorem map_asciiDigitValue_zeros (n : Nat) :
    (List.replicate n '0').map asciiDigitValue = List.replicate n 0 :=
  List.map_replicate

/-- Digits behind a zero, the point and more zeros. -/
theorem spells_below_one (hds : ∀ c ∈ ds, c.isDigit = true) (n : Nat) :
    Spells ('0' :: '.' :: (List.replicate n '0' ++ ds))
      ((ofDigits (ds.map asciiDigitValue) : ℚ) * (10 : ℚ) ^ (-(n : ℤ) - (ds.length : ℤ))) := by
  have hdigits : ∀ c ∈ ['0'] ++ (List.replicate n '0' ++ ds), c.isDigit = true := by
    intro c hc
    rw [List.mem_append, List.mem_append] at hc
    rcases hc with h | h | h
    · rw [List.mem_singleton.1 h]
      decide
    · rw [List.eq_of_mem_replicate h]
      decide
    · exact hds c h
  have hvalue : ofDigits ((['0'] ++ (List.replicate n '0' ++ ds)).map asciiDigitValue)
      = ofDigits (ds.map asciiDigitValue) := by
    rw [List.map_append, List.map_append, map_asciiDigitValue_zeros, List.map_singleton,
      List.singleton_append, ofDigits_cons, ofDigits_append, ofDigits_replicate_zero]
    simp [asciiDigitValue]
  have hexp : -((List.replicate n '0' ++ ds).length : ℤ) = -(n : ℤ) - (ds.length : ℤ) := by
    rw [List.length_append, List.length_replicate]
    omega
  have h := spells_pointed (List.cons_ne_nil '0' []) hdigits
  rwa [hvalue, hexp] at h

/-- Digits, zeros up to the point, and a zero behind it. -/
theorem spells_above_one (hne : ds ≠ []) (hds : ∀ c ∈ ds, c.isDigit = true) (n : Nat) :
    Spells (ds ++ List.replicate n '0' ++ '.' :: ['0'])
      ((ofDigits (ds.map asciiDigitValue) : ℚ) * (10 : ℚ) ^ (n : ℤ)) := by
  have hdigits : ∀ c ∈ (ds ++ List.replicate n '0') ++ ['0'], c.isDigit = true :=
    isDigit_append_zeros (isDigit_append_zeros hds n) 1
  have hvalue : ofDigits (((ds ++ List.replicate n '0') ++ ['0']).map asciiDigitValue)
      = ofDigits (ds.map asciiDigitValue) * 10 ^ (n + 1) := by
    rw [List.map_append, List.map_append, map_asciiDigitValue_zeros, ofDigits_append,
      ofDigits_append, ofDigits_replicate_zero, List.length_replicate, pow_succ]
    simp [asciiDigitValue, ofDigits_cons, Nat.mul_assoc]
  -- the zero behind the point counts as a digit, and the exponent takes it back
  have hworth : ((ofDigits (ds.map asciiDigitValue) * 10 ^ (n + 1) : ℕ) : ℚ)
        * (10 : ℚ) ^ (-((['0'].length : ℕ) : ℤ))
      = (ofDigits (ds.map asciiDigitValue) : ℚ) * (10 : ℚ) ^ (n : ℤ) := by
    rw [zpow_natCast, List.length_singleton]
    push_cast
    rw [zpow_neg_one, pow_succ]
    field_simp
  have h := spells_pointed (by simp [hne]) hdigits
  rwa [hvalue, hworth] at h

/-- Digits with the point among them. -/
theorem spells_among (hds : ∀ c ∈ ds, c.isDigit = true) {n : Nat} (hn : 0 < n)
    (hlength : n < ds.length) :
    Spells (ds.take n ++ '.' :: ds.drop n)
      ((ofDigits (ds.map asciiDigitValue) : ℚ) * (10 : ℚ) ^ ((n : ℤ) - (ds.length : ℤ))) := by
  have hdigits : ∀ c ∈ ds.take n ++ ds.drop n, c.isDigit = true := by
    rw [List.take_append_drop]
    exact hds
  have hexp : -((ds.drop n).length : ℤ) = (n : ℤ) - (ds.length : ℤ) := by
    rw [List.length_drop]
    omega
  have hwhole : ds.take n ≠ [] := by
    intro hnil
    have := congrArg List.length hnil
    rw [List.length_take, List.length_nil] at this
    omega
  have h := spells_pointed hwhole hdigits
  rwa [List.take_append_drop, hexp] at h

/-- **A plain fraction is worth its digits**, wherever the point stands. -/
theorem spells_plain (hne : ds ≠ []) (hds : ∀ c ∈ ds, c.isDigit = true) (x : ℤ) :
    Spells (plain ds x)
      ((ofDigits (ds.map asciiDigitValue) : ℚ) * (10 : ℚ) ^ (x + 1 - (ds.length : ℤ))) := by
  rw [plain]
  split
  · next hx =>
      rw [show x + 1 - (ds.length : ℤ) = -((-x - 1).toNat : ℤ) - (ds.length : ℤ) by omega]
      exact spells_below_one hds _
  · next hx =>
      dsimp only
      by_cases hlength : ds.length ≤ x.toNat + 1
      · rw [if_pos hlength, List.take_of_length_le hlength,
          show x + 1 - (ds.length : ℤ) = ((x.toNat + 1 - ds.length : ℕ) : ℤ) by omega]
        exact spells_above_one hne hds _
      · rw [if_neg hlength, show x.toNat + 1 - ds.length = 0 by omega, List.replicate_zero,
          List.append_nil, show x + 1 = ((x.toNat + 1 : ℕ) : ℤ) by omega]
        exact spells_among hds (Nat.succ_pos _) (Nat.lt_of_not_le hlength)

/-- **Scientific notation is worth its digits.** -/
theorem spells_scientific (hne : ds ≠ []) (hds : ∀ c ∈ ds, c.isDigit = true) (x : ℤ) :
    Spells (scientific ds x)
      ((ofDigits (ds.map asciiDigitValue) : ℚ) * (10 : ℚ) ^ (x + 1 - (ds.length : ℤ))) := by
  obtain ⟨c, rest, rfl⟩ := List.exists_cons_of_ne_nil hne
  have hexp : x + 1 - ((c :: rest).length : ℤ) = x - (rest.length : ℤ) := by
    rw [List.length_cons]
    omega
  have htext : scientific (c :: rest) x
      = [c] ++ (Spelling.fractionText (if rest = [] then none else some rest) ++
        'e' :: (if x < 0 then '-' else '+') :: exponentDigits x.natAbs) := by
    rw [scientific, exponentDigits]
    cases rest with
    | nil => rfl
    | cons d rest => simp [Spelling.fractionText]
  -- With one digit there is no point, and no digits behind it either way.
  have hgetD : (if rest = [] then none else some rest).getD [] = rest := by
    split
    · next hrest => exact hrest.symm
    · rfl
  have hdigits : ∀ d ∈ [c] ++ (if rest = [] then none else some rest).getD [],
      d.isDigit = true := by
    rw [hgetD]
    exact hds
  have h := spells_powered (List.cons_ne_nil c []) hdigits x
  rw [hgetD] at h
  rw [htext, hexp]
  exact h

end Layout

/-- A decimal number is laid out as a text that is worth it. -/
theorem spells_layout {d : Decimal} (hne : d.coefficient ≠ 0) : Spells (layout d) d.magnitude := by
  obtain ⟨n, hlength, hvalue⟩ := exists_ofDigits_dropZeros (Nat.toDigits 10 d.coefficient)
  rw [ofDigits_toDigits] at hvalue
  have hdigits : ∀ c ∈ dropZeros (Nat.toDigits 10 d.coefficient), c.isDigit = true :=
    fun c hc => isDigit_of_mem_toDigits c (mem_of_mem_dropZeros hc)
  have hnonempty : dropZeros (Nat.toDigits 10 d.coefficient) ≠ [] := by
    intro hnil
    rw [hnil, List.map_nil, ofDigits_nil, Nat.zero_mul] at hvalue
    exact hne hvalue
  have hworth : d.magnitude
      = (ofDigits ((dropZeros (Nat.toDigits 10 d.coefficient)).map asciiDigitValue) : ℚ)
        * (10 : ℚ) ^ (d.exponent + ((Nat.toDigits 10 d.coefficient).length : ℤ) - 1 + 1
          - ((dropZeros (Nat.toDigits 10 d.coefficient)).length : ℤ)) := by
    rw [Decimal.magnitude, show d.exponent + ((Nat.toDigits 10 d.coefficient).length : ℤ) - 1 + 1
        - ((dropZeros (Nat.toDigits 10 d.coefficient)).length : ℤ) = n + d.exponent by omega,
      zpow_add₀ (by norm_num), zpow_natCast]
    conv_lhs => rw [hvalue]
    push_cast
    ring
  rw [layout, hworth]
  split
  · exact spells_plain hnonempty hdigits _
  · exact spells_scientific hnonempty hdigits _

/-- A decimal number worth nothing is rounded to zero. -/
theorem toBinary64_of_magnitude_eq_zero {d : Decimal} (hd : d.magnitude = 0)
    {p : Fin Binary64.finiteCount} (hp : p.val = 0) : d.toBinary64 = .finite d.negative p := by
  have hcoefficient : d.coefficient = 0 := by
    rw [Decimal.magnitude, mul_eq_zero] at hd
    exact_mod_cast hd.resolve_right (zpow_ne_zero _ (by norm_num))
  rw [Decimal.toBinary64_eq_finite_iff]
  exact ⟨rfl, by rw [Decimal.place, if_pos hcoefficient, hp]⟩

/-- The magnitude of a binary number is written as a decimal number that is rounded to it. -/
theorem exists_spells_magnitudeText (negative : Bool) (p : Fin Binary64.finiteCount) :
    ∃ value, Spells (Binary64.magnitudeText p) value ∧
      ∀ d : Decimal, d.magnitude = value → d.negative = negative →
        d.toBinary64 = .finite negative p := by
  rw [Binary64.magnitudeText]
  split
  · next hp =>
      have hdigits : ∀ c ∈ ['0'] ++ ['0'], c.isDigit = true := by simp
      refine ⟨_, spells_pointed (List.cons_ne_nil '0' []) hdigits, ?_⟩
      rintro d hmagnitude rfl
      refine toBinary64_of_magnitude_eq_zero ?_ hp
      rw [hmagnitude]
      simp [asciiDigitValue, ofDigits_cons]
  · next hp =>
      refine ⟨_, spells_layout (coefficient_ofPlace_ne_zero hp), ?_⟩
      intro d hmagnitude hnegative
      have hback := Decimal.toBinary64_eq_finite_iff.1 (toBinary64_ofPlace p)
      have hsigned : ({ ofPlace p with negative } : Decimal).toBinary64 = .finite negative p :=
        Decimal.toBinary64_eq_finite_iff.2 ⟨rfl, hback.2⟩
      rw [← hsigned]
      exact Decimal.toBinary64_congr hnegative hmagnitude

/-- **A finite binary number is written as a numeral that is read as it.** -/
theorem exists_spelling_float (negative : Bool) (p : Fin Binary64.finiteCount) :
    ∃ s : Spelling, ((Binary64.finite negative p).text .short).toList = s.text ∧
      s.numeral.isInteger = false ∧ s.numeral.toDecimal.toBinary64 = .finite negative p := by
  obtain ⟨value, ⟨s, -, htext, hinteger, hmagnitude⟩, hback⟩ :=
    exists_spells_magnitudeText negative p
  -- the sign is written in front and read apart, so it changes nothing else
  refine ⟨s.withSign negative, ?_, hinteger, ?_⟩
  · rw [Spelling.text_withSign, htext, Binary64.text, String.toList_ofList]
    cases negative <;> rfl
  · exact hback _ hmagnitude rfl

end FilterQuery.Numeral
