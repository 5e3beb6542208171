/-
The grammar of numerals.

A numeral is read by taking its parts off the front, each as long as it goes. What a numeral is can be
said without reading: an optional sign, then digits with at most one point among or around them, then
perhaps an exponent mark with an optional sign and digits. `Written` says it so, part by part, and the
reading finds a numeral exactly where one is written, with the same parts (`ofChars?_eq_some_iff`).

Nothing here is ambiguous although every part may be missing, and the work is to say why: what ends
one part cannot go on with it. A row of digits is ended by a point or a mark, neither of which is a
digit of any script, and no digit or point is a sign.
-/
import FilterQuery.Proofs.Digits
import Mathlib.Data.List.Forall2

set_option autoImplicit false

namespace FilterQuery.Numeral

open FilterQuery.Text

/-! ## The parts of a numeral -/

/-- A row of digits of any scripts, also mixed, with the values of its digits. -/
def Row (row : List Char) (values : List Nat) : Prop :=
  List.Forall₂ (fun c d => digitValue? c = some d) row values

/-- A sign that may be missing; whether it is a minus sign. -/
inductive Sign : List Char → Bool → Prop
  | absent : Sign [] false
  | plus : Sign ['+'] false
  | minus : Sign ['-'] true

/-- Digits with at most one point among or around them, and at least one digit. The digits behind the
point are apart from those before it. -/
inductive Mantissa : List Char → List Nat → Option (List Nat) → Prop
  | whole {row : List Char} {values : List Nat} (hrow : Row row values) (hne : row ≠ []) :
      Mantissa row values none
  | pointed {row behind : List Char} {values others : List Nat} (hrow : Row row values)
      (hne : row ≠ []) (hbehind : Row behind others) :
      Mantissa (row ++ '.' :: behind) values (some others)
  | bare {behind : List Char} {others : List Nat} (hbehind : Row behind others)
      (hne : behind ≠ []) : Mantissa ('.' :: behind) [] (some others)

/-- An exponent that may be missing: a mark, an optional sign and at least one digit. -/
inductive Exponent : List Char → Option (Bool × List Nat) → Prop
  | absent : Exponent [] none
  | marked {mark : Char} {sign row : List Char} {negative : Bool} {values : List Nat}
      (hmark : mark = 'e' ∨ mark = 'E') (hsign : Sign sign negative) (hrow : Row row values)
      (hne : row ≠ []) : Exponent (mark :: (sign ++ row)) (some (negative, values))

/-- A text that is a numeral, with its parts. -/
inductive Written : List Char → Numeral → Prop
  | mk {sign mantissa power : List Char} {negative : Bool} {whole : List Nat}
      {fraction : Option (List Nat)} {exponent : Option (Bool × List Nat)}
      (hsign : Sign sign negative) (hmantissa : Mantissa mantissa whole fraction)
      (hexponent : Exponent power exponent) :
      Written (sign ++ (mantissa ++ power)) ⟨negative, whole, fraction, exponent⟩

/-! ## Rows of digits -/

theorem Row.eq_nil_iff {row : List Char} {values : List Nat} (hrow : Row row values) :
    row = [] ↔ values = [] := by
  rw [← List.length_eq_zero_iff, hrow.length_eq, List.length_eq_zero_iff]

/-- Digits of ASCII are a row. -/
theorem row_of_isDigit {row : List Char} (hdigits : ∀ c ∈ row, c.isDigit = true) :
    Row row (row.map asciiDigitValue) := by
  rw [Row, List.forall₂_map_right_iff, List.forall₂_same]
  exact fun c hc => digitValue?_of_isDigit (hdigits c hc)

/-- **A row of digits is taken off the front whole** if it ends where the row does. -/
theorem Row.takeDigits_append {row : List Char} {values : List Nat} (hrow : Row row values)
    {rest : List Char} (hrest : EndsDigits rest) : takeDigits (row ++ rest) = (values, rest) := by
  induction hrow with
  | nil => exact takeDigits_of_endsDigits hrest
  | cons hc _ ih =>
      rw [List.cons_append, takeDigits, hc]
      dsimp only
      rw [ih]

theorem Row.takeDigits_eq {row : List Char} {values : List Nat} (hrow : Row row values) :
    takeDigits row = (values, []) := by
  have h := hrow.takeDigits_append endsDigits_nil
  rwa [List.append_nil] at h

/-- What is taken off the front is a row of digits, and no digit follows it. -/
theorem exists_row {s rest : List Char} {values : List Nat} (h : takeDigits s = (values, rest)) :
    ∃ row, s = row ++ rest ∧ Row row values ∧ EndsDigits rest := by
  induction s generalizing values with
  | nil =>
      cases h
      exact ⟨[], rfl, .nil, endsDigits_nil⟩
  | cons c tail ih =>
      rw [takeDigits] at h
      cases hc : digitValue? c with
      | none =>
          rw [hc] at h
          cases h
          exact ⟨[], rfl, .nil, endsDigits_cons tail hc⟩
      | some d =>
          rw [hc] at h
          cases h
          obtain ⟨row, hrest, hrow, hends⟩ := ih rfl
          exact ⟨c :: row, congrArg (c :: ·) hrest, .cons hc hrow, hends⟩

/-! ## Signs -/

/-- Whether a text goes on without a sign. -/
def Unsigned (s : List Char) : Prop :=
  ∀ c ∈ s.head?, c ≠ '-' ∧ c ≠ '+'

theorem takeSign_of_unsigned {s : List Char} (hs : Unsigned s) : takeSign s = (false, s) := by
  rw [takeSign.eq_def]
  split
  · exact absurd rfl (hs '-' rfl).1
  · exact absurd rfl (hs '+' rfl).2
  · rfl

theorem Sign.takeSign_append {sign : List Char} {negative : Bool} (hsign : Sign sign negative)
    {rest : List Char} (hrest : Unsigned rest) : takeSign (sign ++ rest) = (negative, rest) := by
  cases hsign with
  | absent => exact takeSign_of_unsigned hrest
  | plus => rfl
  | minus => rfl

theorem exists_sign {s rest : List Char} {negative : Bool} (h : takeSign s = (negative, rest)) :
    ∃ sign, s = sign ++ rest ∧ Sign sign negative := by
  rw [takeSign.eq_def] at h
  split at h
  · cases h
    exact ⟨['-'], rfl, .minus⟩
  · cases h
    exact ⟨['+'], rfl, .plus⟩
  · cases h
    exact ⟨[], rfl, .absent⟩

/-- No digit of any script is a sign. -/
theorem Row.unsigned {row : List Char} {values : List Nat} (hrow : Row row values) (hne : row ≠ [])
    (rest : List Char) : Unsigned (row ++ rest) := by
  have hminus : digitValue? '-' = none := by decide
  have hplus : digitValue? '+' = none := by decide
  cases hrow with
  | nil => exact absurd rfl hne
  | cons hc _ =>
      intro d hd
      cases hd
      constructor
      · rintro rfl
        rw [hminus] at hc
        cases hc
      · rintro rfl
        rw [hplus] at hc
        cases hc

/-! ## Exponents -/

/-- **An exponent is read exactly where one is written.** -/
theorem exponent?_eq_some_iff {s : List Char} {e : Option (Bool × List Nat)} :
    exponent? s = some e ↔ Exponent s e := by
  constructor
  · intro h
    cases s with
    | nil =>
        cases h
        exact .absent
    | cons mark rest =>
        rw [exponent?] at h
        split at h
        · next hmark =>
            rcases hsign : takeSign rest with ⟨negative, digits⟩
            rcases hdigits : takeDigits digits with ⟨values, behind⟩
            rw [hsign] at h
            dsimp only at h
            rw [hdigits] at h
            dsimp only at h
            split at h
            · next hwhole =>
                rw [Bool.and_eq_true, decide_eq_true_eq, decide_eq_true_eq] at hwhole
                obtain ⟨hne, rfl⟩ := hwhole
                obtain ⟨sign, rfl, hsigned⟩ := exists_sign hsign
                obtain ⟨row, rfl, hrow, -⟩ := exists_row hdigits
                cases h
                rw [List.append_nil]
                exact .marked (by simpa using hmark) hsigned hrow (mt hrow.eq_nil_iff.1 hne)
            · cases h
        · cases h
  · intro h
    cases h with
    | absent => rfl
    | marked hmark hsign hrow hne =>
        have hunsigned := hrow.unsigned hne []
        rw [List.append_nil] at hunsigned
        have hvalues := mt hrow.eq_nil_iff.2 hne
        rw [exponent?, if_pos (by simpa using hmark), hsign.takeSign_append hunsigned]
        dsimp only
        rw [hrow.takeDigits_eq]
        simp [hvalues]

/-! ## Mantissas -/

/-- What may follow a mantissa for it to end there: neither a digit nor a point. -/
def EndsMantissa (rest : List Char) : Prop :=
  EndsDigits rest ∧ ∀ c ∈ rest.head?, c ≠ '.'

theorem Exponent.endsMantissa {power : List Char} {e : Option (Bool × List Nat)}
    (hexponent : Exponent power e) : EndsMantissa power := by
  have hsmall : digitValue? 'e' = none := by decide
  have hlarge : digitValue? 'E' = none := by decide
  cases hexponent with
  | absent => exact ⟨endsDigits_nil, by simp⟩
  | marked hmark _ _ _ =>
      rcases hmark with rfl | rfl
      · exact ⟨endsDigits_cons _ hsmall, by simp⟩
      · exact ⟨endsDigits_cons _ hlarge, by simp⟩

theorem takeFraction_of_endsMantissa {rest : List Char} (hrest : EndsMantissa rest) :
    takeFraction rest = (none, rest) := by
  rw [takeFraction.eq_def]
  split
  · exact absurd rfl (hrest.2 '.' rfl)
  · rfl

theorem endsDigits_point (s : List Char) : EndsDigits ('.' :: s) :=
  endsDigits_cons s (by decide)

/-- A mantissa is taken whole, the digits before the point first. -/
theorem Mantissa.take_append {mantissa : List Char} {whole : List Nat} {fraction : Option (List Nat)}
    (hmantissa : Mantissa mantissa whole fraction) {rest : List Char} (hrest : EndsMantissa rest) :
    ∃ middle, takeDigits (mantissa ++ rest) = (whole, middle) ∧
      takeFraction middle = (fraction, rest) := by
  cases hmantissa with
  | whole hrow hne =>
      exact ⟨rest, hrow.takeDigits_append hrest.1, takeFraction_of_endsMantissa hrest⟩
  | @pointed row behind values others hrow hne hbehind =>
      refine ⟨'.' :: (behind ++ rest), ?_, ?_⟩
      · rw [List.append_assoc, List.cons_append]
        exact hrow.takeDigits_append (endsDigits_point _)
      · rw [takeFraction, hbehind.takeDigits_append hrest.1]
  | @bare behind others hbehind hne =>
      refine ⟨'.' :: (behind ++ rest), takeDigits_of_endsDigits (endsDigits_point _), ?_⟩
      rw [takeFraction, hbehind.takeDigits_append hrest.1]

/-- There is a digit in a mantissa. -/
theorem Mantissa.digits {mantissa : List Char} {whole : List Nat} {fraction : Option (List Nat)}
    (hmantissa : Mantissa mantissa whole fraction) : ¬ (whole = [] ∧ fraction.getD [] = []) := by
  rintro ⟨hwhole, hfraction⟩
  cases hmantissa with
  | whole hrow hne => exact hne (hrow.eq_nil_iff.2 hwhole)
  | pointed hrow hne _ => exact hne (hrow.eq_nil_iff.2 hwhole)
  | bare hbehind hne => exact hne (hbehind.eq_nil_iff.2 hfraction)

/-- What is taken as digits with a point is a mantissa, if there is a digit at all. -/
theorem exists_mantissa {s middle rest : List Char} {whole : List Nat}
    {fraction : Option (List Nat)} (hwhole : takeDigits s = (whole, middle))
    (hfraction : takeFraction middle = (fraction, rest))
    (hdigits : ¬ (whole = [] ∧ fraction.getD [] = [])) :
    ∃ mantissa, s = mantissa ++ rest ∧ Mantissa mantissa whole fraction := by
  obtain ⟨row, rfl, hrow, -⟩ := exists_row hwhole
  rw [takeFraction.eq_def] at hfraction
  split at hfraction
  · next behind =>
      rcases hbehind : takeDigits behind with ⟨others, tail⟩
      rw [hbehind] at hfraction
      cases hfraction
      obtain ⟨behind, rfl, hothers, -⟩ := exists_row hbehind
      by_cases hne : row = []
      · -- without a digit before the point there must be one behind it
        subst hne
        have hnil : whole = [] := hrow.eq_nil_iff.1 rfl
        subst hnil
        refine ⟨'.' :: behind, rfl, .bare hothers ?_⟩
        intro hnone
        exact hdigits ⟨rfl, hothers.eq_nil_iff.1 hnone⟩
      · refine ⟨row ++ '.' :: behind, ?_, .pointed hrow hne hothers⟩
        rw [List.append_assoc, List.cons_append]
  · cases hfraction
    refine ⟨row, rfl, .whole hrow ?_⟩
    intro hnone
    exact hdigits ⟨hrow.eq_nil_iff.1 hnone, rfl⟩

/-- A mantissa begins with a digit or a point. -/
theorem Mantissa.unsigned {mantissa : List Char} {whole : List Nat} {fraction : Option (List Nat)}
    (hmantissa : Mantissa mantissa whole fraction) (rest : List Char) :
    Unsigned (mantissa ++ rest) := by
  cases hmantissa with
  | whole hrow hne => exact hrow.unsigned hne rest
  | pointed hrow hne _ =>
      rw [List.append_assoc]
      exact hrow.unsigned hne _
  | bare _ _ =>
      intro c hc
      cases hc
      decide

/-! ## Numerals -/

/-- **A numeral is read exactly where one is written**, and with its parts. -/
theorem ofChars?_eq_some_iff {s : List Char} {n : Numeral} :
    ofChars? s = some n ↔ Written s n := by
  constructor
  · intro h
    rcases hsign : takeSign s with ⟨negative, s1⟩
    rcases hwhole : takeDigits s1 with ⟨whole, s2⟩
    rcases hfraction : takeFraction s2 with ⟨fraction, s3⟩
    rw [ofChars?, hsign] at h
    dsimp only at h
    rw [hwhole] at h
    dsimp only at h
    rw [hfraction] at h
    dsimp only at h
    split at h
    · cases h
    · next hdigits =>
        obtain ⟨exponent, hexponent, rfl⟩ := Option.map_eq_some_iff.1 h
        obtain ⟨sign, rfl, hsigned⟩ := exists_sign hsign
        obtain ⟨mantissa, rfl, hmantissa⟩ := exists_mantissa hwhole hfraction (by simpa using hdigits)
        exact .mk hsigned hmantissa (exponent?_eq_some_iff.1 hexponent)
  · rintro ⟨hsign, hmantissa, hexponent⟩
    -- each part ends where the next one begins, so each is taken whole
    obtain ⟨middle, hwhole, hfraction⟩ := hmantissa.take_append hexponent.endsMantissa
    rw [ofChars?, hsign.takeSign_append (hmantissa.unsigned _)]
    dsimp only
    rw [hwhole]
    dsimp only
    rw [hfraction]
    dsimp only
    rw [if_neg (by simpa using hmantissa.digits), exponent?_eq_some_iff.2 hexponent]
    rfl

end FilterQuery.Numeral
