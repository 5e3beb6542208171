/-
What a decimal number is worth, and the nearest binary number as a function of that.

A spelling is not unique: `150e-1`, `15.0` and `15` have different coefficients and exponents. All
that rounding may depend on is the rational number, and it does (`toBinary64_congr`). The work is in
the two cases that are decided by size before any power of ten is computed
(`toBinary64_eq_ofRatio`): such a number is so large, or so small, that the exact quotient would be
rounded to the same.

With that, the search for the shortest spelling is right for a reason that needs no counting of
digits: a candidate is taken only if it reads back, and the last resort is the exact value.
-/
import FilterQuery.Number.Shortest
import FilterQuery.Proofs.Rounding
import Mathlib.Algebra.Field.Rat
import Mathlib.Algebra.Order.Ring.Rat
import Mathlib.Tactic.FieldSimp
import Mathlib.Tactic.Linarith
import Mathlib.Tactic.NormNum
import Mathlib.Tactic.Positivity
import Mathlib.Tactic.Ring

set_option autoImplicit false

namespace FilterQuery

namespace Decimal

open Binary64

/-- The number without its sign. -/
def magnitude (d : Decimal) : ℚ := d.coefficient * (10 : ℚ) ^ d.exponent

/-! ## As a quotient of natural numbers -/

/-- The quotient that is rounded unless the size decides. -/
def num (d : Decimal) : ℕ := d.coefficient * 10 ^ d.exponent.toNat

def den (d : Decimal) : ℕ := 10 ^ (-d.exponent).toNat

theorem den_pos (d : Decimal) : 0 < d.den := by
  rw [den]
  positivity

theorem num_eq_magnitude_mul_den (d : Decimal) : (d.num : ℚ) = d.magnitude * d.den := by
  have hexp : (d.exponent.toNat : ℤ) = d.exponent + ((-d.exponent).toNat : ℤ) := by omega
  rw [num, den, magnitude]
  push_cast
  rw [← zpow_natCast (10 : ℚ) d.exponent.toNat, hexp, zpow_add₀ (by norm_num), zpow_natCast]
  ring

/-- Numbers of the same magnitude are the same quotient. -/
theorem num_mul_den_of_magnitude_eq {d e : Decimal} (h : d.magnitude = e.magnitude) :
    d.num * e.den = e.num * d.den := by
  have hq : (d.num : ℚ) * e.den = e.num * d.den := by
    rw [num_eq_magnitude_mul_den, num_eq_magnitude_mul_den e, h]
    ring
  exact_mod_cast hq

/-! ## The cases decided by size -/

/-- Three doublings are less than a factor of ten, which is all that the two bounds need to know of
it. -/
theorem two_pow_three_mul_le (n : ℕ) : 2 ^ (3 * n) ≤ 10 ^ n := by
  rw [pow_mul]
  exact Nat.pow_le_pow_left (by norm_num) n

/-- From `10 ^ 401` on the exact quotient is beyond the finite magnitudes. -/
theorem finiteCount_le_of_large {d : Decimal} (hne : d.coefficient ≠ 0) (hbig : 400 < d.exponent) :
    finiteCount ≤ nearestPlace d.num d.den := by
  refine finiteCount_le_nearestPlace d.den_pos ?_
  have hden : d.den = 1 := by
    rw [den, show (-d.exponent).toNat = 0 by omega, pow_zero]
  have hnum : 2 ^ (3 * d.exponent.toNat) ≤ d.num := by
    calc 2 ^ (3 * d.exponent.toNat) ≤ 10 ^ d.exponent.toNat := two_pow_three_mul_le _
      _ = 1 * 10 ^ d.exponent.toNat := (Nat.one_mul _).symm
      _ ≤ d.num := Nat.mul_le_mul_right _ (Nat.one_le_iff_ne_zero.2 hne)
  rw [unitsAt_finiteCount, hden, Nat.mul_one, unitsPerOne_eq]
  calc 2 ^ 2098 ≤ 2 ^ (3 * d.exponent.toNat + 1074) :=
        pow_le_pow_right₀ (by norm_num) (by omega)
    _ = 2 ^ (3 * d.exponent.toNat) * 2 ^ 1074 := pow_add 2 _ 1074
    _ ≤ d.num * 2 ^ 1074 := Nat.mul_le_mul_right _ hnum

/-- Below `10 ^ (-400)` the exact quotient is less than half a unit. The coefficient counts through
its logarithm to base two, which only makes the bound more generous. -/
theorem nearestPlace_eq_zero_of_small {d : Decimal}
    (hsmall : d.exponent + d.coefficient.log2 + 1 < -400) : nearestPlace d.num d.den = 0 := by
  refine nearestPlace_eq_zero ?_
  have hnum : d.num = d.coefficient := by
    rw [num, show d.exponent.toNat = 0 by omega, pow_zero, Nat.mul_one]
  rw [hnum, unitsPerOne_eq]
  calc 2 * (d.coefficient * 2 ^ 1074) = d.coefficient * 2 ^ (1074 + 1) := by
        rw [pow_succ 2 1074, Nat.mul_left_comm, Nat.mul_comm 2]
    _ < 2 ^ (d.coefficient.log2 + 1) * 2 ^ (1074 + 1) :=
        Nat.mul_lt_mul_of_pos_right Nat.lt_log2_self (by positivity)
    _ = 2 ^ (d.coefficient.log2 + 1 + (1074 + 1)) := (pow_add 2 _ (1074 + 1)).symm
    _ ≤ 2 ^ (3 * (-d.exponent).toNat) := Nat.pow_le_pow_right (by norm_num) (by omega)
    _ ≤ d.den := two_pow_three_mul_le _

/-! ## The nearest binary number -/

/-- **The nearest binary number is that of the exact quotient**, also where the size decides. -/
theorem toBinary64_eq_ofRatio (d : Decimal) : d.toBinary64 = ofRatio d.negative d.num d.den := by
  rw [toBinary64, ofRatio, place]
  -- Zero, the two sizes that decide, and the quotient itself.
  by_cases hzero : d.coefficient = 0
  · have hnum : nearestPlace d.num d.den = 0 := by
      refine nearestPlace_eq_zero ?_
      rw [num, hzero, Nat.zero_mul, Nat.zero_mul, Nat.mul_zero]
      exact d.den_pos
    simp only [if_pos hzero, hnum]
  by_cases hbig : 400 < d.exponent
  · have hbeyond : ¬ nearestPlace d.num d.den < finiteCount :=
      Nat.not_lt.2 (finiteCount_le_of_large hzero hbig)
    simp only [if_neg hzero, if_pos hbig, dif_neg hbeyond, dif_neg (Nat.lt_irrefl finiteCount)]
  by_cases hsmall : d.exponent + d.coefficient.log2 + 1 < -400
  · simp only [if_neg hzero, if_neg hbig, if_pos hsmall, nearestPlace_eq_zero_of_small hsmall]
  · simp only [if_neg hzero, if_neg hbig, if_neg hsmall, natPow_eq]
    rfl

/-- **Numbers of the same sign and magnitude have the same nearest binary number.** -/
theorem toBinary64_congr {d e : Decimal} (hsign : d.negative = e.negative)
    (hmagnitude : d.magnitude = e.magnitude) : d.toBinary64 = e.toBinary64 := by
  have hplace : nearestPlace d.num d.den = nearestPlace e.num e.den :=
    nearestPlace_congr d.den_pos e.den_pos (num_mul_den_of_magnitude_eq hmagnitude)
  rw [toBinary64_eq_ofRatio, toBinary64_eq_ofRatio, ofRatio, ofRatio, hsign]
  simp only [hplace]

/-- A decimal number is rounded to a magnitude and then given its sign. -/
theorem toBinary64_eq_finite_iff {d : Decimal} {negative : Bool} {p : Fin finiteCount} :
    d.toBinary64 = .finite negative p ↔ d.negative = negative ∧ d.place = p := by
  rw [toBinary64]
  split
  · next h => simp [Fin.ext_iff]
  · next h =>
      constructor
      · intro h'
        cases h'
      · rintro ⟨-, hp⟩
        exact absurd (hp ▸ p.isLt) h

end Decimal

/-! ## The shortest spelling reads back -/

namespace Shortest

open Binary64

/-- A candidate on a grid is taken only if it reads back. -/
theorem toBinary64_of_withDigits? {p : Fin finiteCount} {digits : ℕ} {d : Decimal}
    (h : withDigits? p digits = some d) : d.toBinary64 = .finite false p := by
  rw [Decimal.toBinary64_eq_finite_iff]
  unfold withDigits? at h
  -- a power this large must not be computed, and nothing here depends on it
  generalize unitsPerOne = one at h
  dsimp only at h
  split at h
  · cases h
  · next hbelow _ => cases h; exact ⟨rfl, eq_of_beq hbelow⟩
  · next _ habove => cases h; exact ⟨rfl, eq_of_beq habove⟩
  · next hbelow habove =>
      cases h
      split
      · exact ⟨rfl, eq_of_beq hbelow⟩
      · split
        · exact ⟨rfl, eq_of_beq habove⟩
        · split
          · exact ⟨rfl, eq_of_beq hbelow⟩
          · exact ⟨rfl, eq_of_beq habove⟩

/-- The exact value reads back: a unit is `5 ^ 1074 / 10 ^ 1074`. -/
theorem toBinary64_exact (p : Fin finiteCount) : (exact p).toBinary64 = .finite false p := by
  have hplace : nearestPlace (exact p).num (exact p).den = p := by
    refine nearestPlace_of_eq (exact p).den_pos ?_
    have hexponent : (exact p).exponent = -1074 := rfl
    have hcoefficient : (exact p).coefficient = unitsAt p * 5 ^ 1074 := by
      simp only [exact, natPow_eq]
    -- The powers of five and of two make up the power of ten in the denominator.
    rw [Decimal.num, Decimal.den, hexponent, hcoefficient, show (-1074 : ℤ).toNat = 0 by decide,
      show (-(-1074) : ℤ).toNat = 1074 by decide, pow_zero, Nat.mul_one, unitsPerOne_eq,
      Nat.mul_assoc, ← mul_pow, show (5 * 2 : ℕ) = 10 from rfl]
  rw [Decimal.toBinary64_eq_ofRatio, ofRatio]
  simp only [hplace, p.isLt, dif_pos, Fin.eta]
  rfl

/-- **The shortest spelling of a magnitude reads back as it.** -/
theorem toBinary64_ofPlace (p : Fin finiteCount) : (ofPlace p).toBinary64 = .finite false p := by
  unfold ofPlace
  cases hfound : (List.range 17).findSome? fun n => withDigits? p (n + 1) with
  | none => exact toBinary64_exact p
  | some d =>
      obtain ⟨n, -, hn⟩ := List.exists_of_findSome?_eq_some hfound
      exact toBinary64_of_withDigits? hn

/-- Only zero is spelled with a zero coefficient. -/
theorem coefficient_ofPlace_ne_zero {p : Fin finiteCount} (hp : p.val ≠ 0) :
    (ofPlace p).coefficient ≠ 0 := by
  intro hzero
  have hplace := (Decimal.toBinary64_eq_finite_iff.1 (toBinary64_ofPlace p)).2
  rw [Decimal.place, if_pos hzero] at hplace
  exact hp hplace.symm

end Shortest

end FilterQuery
