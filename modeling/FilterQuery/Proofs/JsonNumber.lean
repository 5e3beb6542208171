/-
Written numbers are JSON numbers.

That a written number is read back was the business of `Numeral.Spelling`. JSON asks for more than a
numeral: no zeros in front of the digits and a digit behind the point. Neither can be seen from the
value, so it has to be seen from how numbers are laid out. Digits in front come from the digits of a
positive number, and those do not begin with zero because there are no more of them than it takes
(`length_eq_one_of_head?_eq_zero`); behind the point there is a digit in each of the layouts.

A text has at most one spelling as far as its numeral goes. That is why strictness and value may be
shown by different spellings of the same text.
-/
import FilterQuery.Datum.Json.Reader
import FilterQuery.Proofs.Spelling

set_option autoImplicit false

namespace FilterQuery

open FilterQuery.Text

/-! ## No zeros in front -/

namespace Text

theorem asciiDigitValue_lt {c : Char} (hc : c.isDigit = true) : asciiDigitValue c < 10 :=
  digitValue?_lt (digitValue?_of_isDigit hc)

/-- Only the character zero has the value zero among the digits. -/
theorem eq_zero_of_asciiDigitValue {c : Char} (hc : c.isDigit = true) (h : asciiDigitValue c = 0) :
    c = '0' := by
  have hlow : 0x30 ≤ c.toNat := (Char.isDigit_iff_toNat.1 hc).1
  have hzero : c.toNat - 0x30 = 0 := h
  apply Char.toNat_inj.1
  change c.toNat = 0x30
  omega

/-- Digits of which no fewer would do begin with zero only when there is just one. -/
theorem length_eq_one_of_head?_eq_zero {ds : List Nat} (hds : ∀ d ∈ ds, d < 10)
    (hlength : ds.length ≤ (Nat.toDigits 10 (ofDigits ds)).length) (hhead : ds.head? = some 0) :
    ds.length = 1 := by
  cases ds with
  | nil => cases hhead
  | cons d rest =>
      obtain rfl : d = 0 := Option.some.inj hhead
      obtain ⟨-, hrest⟩ := List.forall_mem_cons.1 hds
      by_cases hnil : rest = []
      · rw [hnil, List.length_singleton]
      · have hvalue : ofDigits (0 :: rest) = ofDigits rest := by
          rw [ofDigits_cons, Nat.zero_mul, Nat.zero_add]
        have hfewer := (Nat.length_toDigits_le_iff (by decide) (List.length_pos_iff.2 hnil)).2
          (ofDigits_lt hrest)
        rw [hvalue, List.length_cons] at hlength
        omega

/-- The digits of a positive number do not begin with zero. -/
theorem head?_toDigits_ne_zero {n : Nat} (hn : n ≠ 0) : (Nat.toDigits 10 n).head? ≠ some '0' := by
  intro hhead
  have hvalue := ofDigits_toDigits n
  have hds : ∀ d ∈ (Nat.toDigits 10 n).map asciiDigitValue, d < 10 := by
    rw [List.forall_mem_map]
    exact fun c hc => asciiDigitValue_lt (isDigit_of_mem_toDigits c hc)
  have hzero : ((Nat.toDigits 10 n).map asciiDigitValue).head? = some 0 := by
    rw [List.head?_map, hhead]
    rfl
  have hone := length_eq_one_of_head?_eq_zero hds (by rw [hvalue, List.length_map]) hzero
  -- so zero is the only digit
  obtain ⟨d, hd⟩ := List.length_eq_one_iff.1 hone
  rw [hd] at hzero hvalue
  obtain rfl : d = 0 := Option.some.inj hzero
  exact hn hvalue.symm

end Text

/-! ## Strict spellings -/

namespace Numeral.Spelling

/-- A spelling without zeros in front, and with a digit behind the point if there is one. -/
structure IsStrict (s : Spelling) : Prop where
  head : s.whole.head? = some '0' → s.whole.length = 1
  fraction : s.fraction ≠ some []

theorem isStrict_numeral {s : Spelling} (hs : s.IsStrict) : Json.isStrict s.numeral = true := by
  have hne : s.numeral.whole ≠ [] := by
    simpa [numeral] using s.whole_ne_nil
  have hhead : s.numeral.whole.head? = some 0 → s.numeral.whole.length = 1 := by
    intro hzero
    obtain ⟨c, rest, hwhole⟩ := List.exists_cons_of_ne_nil s.whole_ne_nil
    have hc : c.isDigit = true := s.isDigit_whole c (by rw [hwhole]; exact List.mem_cons_self)
    rw [numeral, hwhole] at hzero
    obtain rfl : c = '0' := eq_zero_of_asciiDigitValue hc (Option.some.inj hzero)
    rw [numeral, List.length_map]
    exact hs.head (by rw [hwhole]; rfl)
  have hfraction : s.numeral.fraction ≠ some [] := by
    intro hnil
    obtain ⟨ds, hds, hmap⟩ := Option.map_eq_some_iff.1 hnil
    rw [List.map_eq_nil_iff.1 hmap] at hds
    exact hs.fraction hds
  rw [Json.isStrict]
  simp only [Bool.and_eq_true, Bool.or_eq_true, decide_eq_true_eq]
  refine ⟨⟨hne, ?_⟩, hfraction⟩
  by_cases hzero : s.numeral.whole.head? = some 0
  · exact Or.inr (hhead hzero)
  · exact Or.inl hzero

/-- A spelling begins with a minus sign or a digit. -/
theorem exists_text_eq_cons (s : Spelling) :
    ∃ c rest, s.text = c :: rest ∧ (c = '-' ∨ c.isDigit = true) := by
  obtain ⟨c, rest, hwhole⟩ := List.exists_cons_of_ne_nil s.whole_ne_nil
  have hc : c.isDigit = true := s.isDigit_whole c (by rw [hwhole]; exact List.mem_cons_self)
  cases hnegative : s.negative with
  | true => exact ⟨'-', s.unsignedText, by rw [text, hnegative]; rfl, Or.inl rfl⟩
  | false =>
      refine ⟨c, rest ++ (fractionText s.fraction ++ exponentText s.exponent), ?_, Or.inr hc⟩
      rw [text, hnegative, unsignedText, hwhole]
      rfl

/-- **A strict spelling is read as the value of its numeral.** -/
theorem number?_text {s : Spelling} (hs : Json.isStrict s.numeral = true) :
    Json.number? s.text = some (Json.ofNumeral s.numeral) := by
  obtain ⟨c, rest, htext, hc⟩ := s.exists_text_eq_cons
  have hplus : s.text.head? ≠ some '+' := by
    rw [htext]
    intro h
    obtain rfl : c = '+' := Option.some.inj h
    revert hc
    decide
  rw [Json.number?, if_neg hplus, ofChars?_text, Option.filter_some, if_pos hs, Option.map_some]

/-- Every character of a spelling may stand in a JSON number. -/
theorem isNumberSign_of_mem_text {s : Spelling} {c : Char} (hc : c ∈ s.text) :
    Json.isNumberSign c = true := by
  have hmarks : ∀ m ∈ marks, Json.isNumberSign m = true := List.all_eq_true.1 (by decide)
  rcases mem_text hc with hdigit | hmark
  · rw [Json.isNumberSign, hdigit, Bool.true_or]
  · exact hmarks c hmark

end Numeral.Spelling

/-! ## Layouts -/

namespace Shortest

open Numeral Numeral.Spelling

/-- A text that is a written number without a sign and strict. -/
def IsStrict (text : List Char) : Prop :=
  ∃ s : Spelling, s.unsignedText = text ∧ s.IsStrict

/-- A number from its parts. -/
theorem isStrict_of_parts (fraction : Option (List Char)) (exponent : Option (Bool × List Char))
    {whole : List Char} (hne : whole ≠ [])
    (hwhole : ∀ c ∈ whole, c.isDigit = true) (hhead : whole.head? = some '0' → whole.length = 1)
    (hfraction : ∀ ds, fraction = some ds → ds ≠ [] ∧ ∀ c ∈ ds, c.isDigit = true)
    (hexponent : ∀ e, exponent = some e → e.2 ≠ [] ∧ ∀ c ∈ e.2, c.isDigit = true) :
    IsStrict (whole ++ (fractionText fraction ++ exponentText exponent)) := by
  let s : Spelling := {
    negative := false, whole, fraction, exponent
    whole_ne_nil := hne
    isDigit_whole := hwhole
    isDigit_fraction := fun ds hds => (hfraction ds hds).2
    exponent_ne_nil := fun e he => (hexponent e he).1
    isDigit_exponent := fun e he => (hexponent e he).2 }
  exact ⟨s, rfl, hhead, fun hnil => (hfraction [] hnil).1 rfl⟩

section Layout

variable {ds : List Char}

/-- A plain fraction is strict, wherever the point stands. -/
theorem isStrict_plain (hne : ds ≠ []) (hds : ∀ c ∈ ds, c.isDigit = true)
    (hhead : ds.head? ≠ some '0') (x : ℤ) : IsStrict (plain ds x) := by
  have hpointed : ∀ {whole fraction : List Char}, whole ≠ [] → fraction ≠ [] →
      (∀ c ∈ whole, c.isDigit = true) → (∀ c ∈ fraction, c.isDigit = true) →
      (whole.head? = some '0' → whole.length = 1) → IsStrict (whole ++ '.' :: fraction) := by
    intro whole fraction hwhole hfraction hwholeDigits hfractionDigits hlead
    have h := isStrict_of_parts (some fraction) none hwhole hwholeDigits hlead
      (by rintro _ ⟨⟩; exact ⟨hfraction, hfractionDigits⟩) (by rintro _ ⟨⟩)
    rwa [exponentText, List.append_nil, fractionText] at h
  have hzeros : ∀ n : Nat, ∀ c ∈ List.replicate n '0', c.isDigit = true := by
    intro n c hc
    rw [List.eq_of_mem_replicate hc]
    decide
  obtain ⟨d, rest, hcons⟩ := List.exists_cons_of_ne_nil hne
  unfold plain
  split
  · -- a zero, the point, and the digits behind more zeros
    exact hpointed (List.cons_ne_nil '0' []) (by simp [hne]) (by simp)
      (List.forall_mem_append.2 ⟨hzeros _, hds⟩) (fun _ => rfl)
  · dsimp only
    -- The first digit stands in front of the point in any case.
    have hlead : ∀ zeros : List Char,
        (ds.take (x.toNat + 1) ++ zeros).head? = some '0' →
          (ds.take (x.toNat + 1) ++ zeros).length = 1 := by
      intro zeros hzero
      rw [hcons] at hzero hhead
      exact absurd hzero hhead
    have hwhole : ds.take (x.toNat + 1) ++ List.replicate (x.toNat + 1 - ds.length) '0' ≠ [] := by
      rw [hcons]
      exact List.cons_ne_nil _ _
    have hdigits : ∀ c ∈ ds.take (x.toNat + 1) ++ List.replicate (x.toNat + 1 - ds.length) '0',
        c.isDigit = true :=
      List.forall_mem_append.2 ⟨fun c hc => hds c (List.mem_of_mem_take hc), hzeros _⟩
    by_cases hlength : ds.length ≤ x.toNat + 1
    · rw [if_pos hlength]
      exact hpointed hwhole (List.cons_ne_nil _ _) hdigits (by simp) (hlead _)
    · rw [if_neg hlength]
      refine hpointed hwhole ?_ hdigits (fun c hc => hds c (List.mem_of_mem_drop hc)) (hlead _)
      intro hnil
      rw [List.drop_eq_nil_iff] at hnil
      exact hlength hnil

/-- Scientific notation is strict: one digit stands in front of the point, and the point only where
there are more. -/
theorem isStrict_scientific (hne : ds ≠ []) (hds : ∀ c ∈ ds, c.isDigit = true) (x : ℤ) :
    IsStrict (scientific ds x) := by
  obtain ⟨d, rest, rfl⟩ := List.exists_cons_of_ne_nil hne
  obtain ⟨hd, hrest⟩ := List.forall_mem_cons.1 hds
  have htext : scientific (d :: rest) x
      = [d] ++ (fractionText (if rest = [] then none else some rest) ++
        exponentText (some (decide (x < 0), exponentDigits x.natAbs))) := by
    rw [scientific, exponentText, exponentDigits]
    cases rest with
    | nil => simp [fractionText]
    | cons e rest => simp [fractionText]
  rw [htext]
  apply isStrict_of_parts _ _ (List.cons_ne_nil d []) (by simpa using hd) (fun _ => rfl)
  · intro es hes
    by_cases hnil : rest = []
    · rw [if_pos hnil] at hes
      cases hes
    · rw [if_neg hnil] at hes
      cases hes
      exact ⟨hnil, hrest⟩
  · rintro _ ⟨⟩
    exact ⟨exponentDigits_ne_nil _, isDigit_of_mem_exponentDigits⟩

end Layout

/-- **Magnitudes are written strictly.** -/
theorem isStrict_magnitudeText (p : Fin Binary64.finiteCount) :
    IsStrict (Binary64.magnitudeText p) := by
  unfold Binary64.magnitudeText
  split
  · exact isStrict_of_parts (some ['0']) none (List.cons_ne_nil '0' []) (by simp) (fun _ => rfl)
      (by rintro _ ⟨⟩; simp) (by rintro _ ⟨⟩)
  · next hp =>
      have hcoefficient := coefficient_ofPlace_ne_zero hp
      obtain ⟨n, hn⟩ := exists_eq_dropZeros_append (Nat.toDigits 10 (ofPlace p).coefficient)
      have hdigits : ∀ c ∈ dropZeros (Nat.toDigits 10 (ofPlace p).coefficient),
          c.isDigit = true :=
        fun c hc => isDigit_of_mem_toDigits c (mem_of_mem_dropZeros hc)
      have hhead := head?_toDigits_ne_zero hcoefficient
      -- Not all digits are zeros, since the first is not.
      have hne : dropZeros (Nat.toDigits 10 (ofPlace p).coefficient) ≠ [] := by
        intro hnil
        rw [hnil, List.nil_append] at hn
        cases n with
        | zero => exact Nat.toDigits_ne_nil hn
        | succ n =>
            rw [hn] at hhead
            exact hhead rfl
      have hfirst : (dropZeros (Nat.toDigits 10 (ofPlace p).coefficient)).head?
          ≠ some '0' := by
        obtain ⟨d, rest, hcons⟩ := List.exists_cons_of_ne_nil hne
        rw [hn, hcons] at hhead
        rw [hcons]
        exact hhead
      unfold layout
      dsimp only
      split
      · exact isStrict_plain hne hdigits hfirst _
      · exact isStrict_scientific hne hdigits _

end Shortest

/-! ## Numbers in JSON -/

namespace Json

open Numeral Numeral.Spelling

/-- **An integer is written as a JSON number that is read as it.** -/
theorem exists_number_int (n : ℤ) :
    ∃ s : Spelling, (toString n).toList = s.text ∧ number? s.text = some (.int n) := by
  obtain ⟨s, htext, hinteger, hvalue, hlength⟩ := exists_spelling_int n
  have hfraction : s.numeral.fraction = none := by
    rw [isInteger, Bool.and_eq_true, Option.isNone_iff_eq_none] at hinteger
    exact hinteger.1
  have hdigits : ofDigits s.numeral.whole = n.natAbs := by
    rw [← hvalue, toInt]
    split
    · rw [Int.natAbs_neg, Int.natAbs_natCast]
    · rw [Int.natAbs_natCast]
  have hsmall : ∀ d ∈ s.numeral.whole, d < 10 :=
    List.forall_mem_map.2 fun c hc => asciiDigitValue_lt (s.isDigit_whole c hc)
  have hstrict : isStrict s.numeral = true := by
    have hne : s.numeral.whole ≠ [] := by
      simpa [numeral] using s.whole_ne_nil
    rw [isStrict, hfraction]
    simp only [Bool.and_eq_true, Bool.or_eq_true, decide_eq_true_eq]
    refine ⟨⟨hne, ?_⟩, by simp⟩
    by_cases hzero : s.numeral.whole.head? = some 0
    · exact Or.inr
        (length_eq_one_of_head?_eq_zero hsmall (by rw [hdigits, hlength]) hzero)
    · exact Or.inl hzero
  refine ⟨s, htext, ?_⟩
  rw [number?_text hstrict, ofNumeral, if_pos hinteger, hvalue]

/-- **A finite binary number is written as a JSON number that is read as it.** -/
theorem exists_number_float (names : SpecialNames) (negative : Bool)
    (p : Fin Binary64.finiteCount) :
    ∃ s : Spelling, ((Binary64.finite negative p).text names).toList = s.text ∧
      number? s.text = some (.float (.finite negative p)) := by
  obtain ⟨s, htext, hinteger, hvalue⟩ := exists_spelling_float negative p
  obtain ⟨strict, hunsigned, hstrict⟩ := Shortest.isStrict_magnitudeText p
  have hsame : s.text = (strict.withSign negative).text := by
    rw [← htext, text_withSign, hunsigned, Binary64.text, String.toList_ofList]
    cases negative <;> rfl
  -- One text has one numeral, so what one spelling shows holds for the other.
  have hnumeral : s.numeral = (strict.withSign negative).numeral := by
    have hread := ofChars?_text s
    rw [hsame, ofChars?_text] at hread
    exact (Option.some.inj hread).symm
  have hs : isStrict s.numeral = true := by
    rw [hnumeral]
    exact isStrict_numeral ⟨hstrict.head, hstrict.fraction⟩
  refine ⟨s, htext, ?_⟩
  rw [number?_text hs, ofNumeral, hinteger, if_neg Bool.false_ne_true, hvalue]

end Json

end FilterQuery
