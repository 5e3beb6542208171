/-
Rounding is to the nearest, and what is rounded to a finite number.

The nearest binary number of a decimal is found by comparing natural numbers, with the denominator
multiplied out. What those comparisons mean is said here in rational numbers, in units of the
smallest positive magnitude: the decimal lies between two places of the list that follow each other,
and the nearer of the two is taken, or the even one when both are as near (`exists_neighbours`).

Two facts come of that. No other finite number is nearer (`isNearest_toBinary64`). And the decimal is
rounded to a finite number exactly below `2 ^ 1024 - 2 ^ 970` (`isFinite_toBinary64_iff`): that is the
middle between the last finite magnitude and the one that would follow. The middle itself is not
rounded to a finite number, because the last place is an odd one.
-/
import FilterQuery.Proofs.DecimalValue
import Mathlib.Algebra.Order.Group.Abs

set_option autoImplicit false

namespace FilterQuery

open Binary64

namespace Decimal

/-! ## The neighbours -/

/-- The magnitude of a decimal in units of the smallest positive binary number. -/
def units (d : Decimal) : ℚ := d.magnitude * unitsPerOne

variable (d : Decimal)

theorem units_nonneg : 0 ≤ d.units := by
  rw [units, magnitude]
  refine mul_nonneg (mul_nonneg (Nat.cast_nonneg _) ?_) (Nat.cast_nonneg _)
  exact zpow_nonneg (by norm_num) _

theorem units_mul_den : d.units * d.den = ((d.num * unitsPerOne : ℕ) : ℚ) := by
  push_cast
  rw [units, num_eq_magnitude_mul_den]
  ring

/-- A natural number is compared with the units without the denominator. -/
theorem mul_units_lt_natCast_iff (c n : ℕ) :
    c * d.units < (n : ℚ) ↔ c * (d.num * unitsPerOne) < n * d.den := by
  have hden : (0 : ℚ) < d.den := by exact_mod_cast d.den_pos
  rw [← mul_lt_mul_iff_left₀ hden, mul_assoc, units_mul_den]
  exact_mod_cast Iff.rfl

theorem natCast_lt_mul_units_iff (c n : ℕ) :
    (n : ℚ) < c * d.units ↔ n * d.den < c * (d.num * unitsPerOne) := by
  have hden : (0 : ℚ) < d.den := by exact_mod_cast d.den_pos
  rw [← mul_lt_mul_iff_left₀ hden, mul_assoc, units_mul_den]
  exact_mod_cast Iff.rfl

/-- **The two neighbours of a decimal**, and which of them is the nearest place. -/
theorem exists_neighbours :
    ∃ below : ℕ, (unitsAt below : ℚ) ≤ d.units ∧ d.units < unitsAt (below + 1) ∧
      ((2 * d.units < unitsAt below + unitsAt (below + 1) ∧
          nearestPlace d.num d.den = below) ∨
        (unitsAt below + unitsAt (below + 1) < 2 * d.units ∧
          nearestPlace d.num d.den = below + 1) ∨
        (2 * d.units = unitsAt below + unitsAt (below + 1) ∧
          nearestPlace d.num d.den = below + below % 2)) := by
  obtain ⟨hle, hlt⟩ := placeBelow_spec (d.num * unitsPerOne / d.den)
  rw [Nat.le_div_iff_mul_le d.den_pos] at hle
  rw [Nat.div_lt_iff_lt_mul d.den_pos] at hlt
  have hlow := d.mul_units_lt_natCast_iff 1 (unitsAt (placeBelow (d.num * unitsPerOne / d.den)))
  have hhigh := d.mul_units_lt_natCast_iff 1
    (unitsAt (placeBelow (d.num * unitsPerOne / d.den) + 1))
  rw [Nat.cast_one, one_mul, Nat.one_mul] at hlow hhigh
  refine ⟨placeBelow (d.num * unitsPerOne / d.den), not_lt.1 (fun h => ?_), hhigh.2 hlt, ?_⟩
  · exact Nat.not_lt.2 hle (hlow.1 h)
  -- twice the units against the sum of the neighbours is the comparison that rounding makes
  rw [nearestPlace]
  generalize placeBelow (d.num * unitsPerOne / d.den) = below
  have hless := d.mul_units_lt_natCast_iff 2 (unitsAt below + unitsAt (below + 1))
  have hmore := d.natCast_lt_mul_units_iff 2 (unitsAt below + unitsAt (below + 1))
  push_cast at hless hmore
  rcases lt_trichotomy (2 * d.units) (unitsAt below + unitsAt (below + 1)) with h | h | h
  · exact .inl ⟨h, if_pos (hless.1 h)⟩
  · refine .inr (.inr ⟨h, ?_⟩)
    rw [if_neg (mt hless.2 h.not_lt), if_neg (mt hmore.2 h.not_gt)]
  · refine .inr (.inl ⟨h, ?_⟩)
    rw [if_neg (mt hless.2 h.not_gt), if_pos (hmore.1 h)]

/-- Places in order are magnitudes in order. -/
theorem unitsAt_le_unitsAt {a b : ℕ} (h : a ≤ b) : (unitsAt a : ℚ) ≤ unitsAt b := by
  exact_mod_cast unitsAt_strictMono.monotone h

/-- **No place is nearer than the one that is rounded to.** -/
theorem abs_units_sub_nearestPlace_le (place : ℕ) :
    |d.units - unitsAt (nearestPlace d.num d.den)| ≤ |d.units - unitsAt place| := by
  obtain ⟨below, hlow, hhigh, hnearest⟩ := d.exists_neighbours
  -- every place is at or below the lower neighbour, or at or above the upper one
  have hplace : (unitsAt place : ℚ) ≤ unitsAt below ∨ (unitsAt (below + 1) : ℚ) ≤ unitsAt place := by
    rcases Nat.lt_or_ge below place with h | h
    · exact .inr (unitsAt_le_unitsAt h)
    · exact .inl (unitsAt_le_unitsAt h)
  have hlower : unitsAt below + unitsAt (below + 1) ≤ 2 * d.units →
      |d.units - unitsAt (below + 1)| ≤ |d.units - unitsAt place| := by
    intro hmiddle
    rw [abs_sub_comm, abs_of_nonneg (by linarith)]
    rcases hplace with h | h
    · rw [abs_of_nonneg (by linarith)]
      linarith
    · rw [abs_sub_comm, abs_of_nonneg (by linarith)]
      linarith
  have hupper : 2 * d.units ≤ unitsAt below + unitsAt (below + 1) →
      |d.units - unitsAt below| ≤ |d.units - unitsAt place| := by
    intro hmiddle
    rw [abs_of_nonneg (by linarith)]
    rcases hplace with h | h
    · rw [abs_of_nonneg (by linarith)]
      linarith
    · rw [abs_sub_comm, abs_of_nonneg (by linarith)]
      linarith
  rcases hnearest with ⟨h, hp⟩ | ⟨h, hp⟩ | ⟨h, hp⟩
  · rw [hp]
    exact hupper h.le
  · rw [hp]
    exact hlower h.le
  · rw [hp]
    rcases Nat.mod_two_eq_zero_or_one below with heven | hodd
    · rw [heven]
      exact hupper h.le
    · rw [hodd]
      exact hlower h.ge

/-! ## The last finite place -/

/-- Rounding stops at an odd place exactly below the middle behind it, where the next place is the
even one. -/
theorem nearestPlace_le_iff_of_odd {place : ℕ} (hodd : place % 2 = 1) :
    nearestPlace d.num d.den ≤ place ↔ 2 * d.units < unitsAt place + unitsAt (place + 1) := by
  obtain ⟨below, hlow, hhigh, hnearest⟩ := d.exists_neighbours
  rcases lt_trichotomy below place with hlt | rfl | hgt
  · -- the upper neighbour is still within
    have hle : nearestPlace d.num d.den ≤ place := by omega
    have h1 := unitsAt_le_unitsAt (show below + 1 ≤ place from hlt)
    have h2 := unitsAt_le_unitsAt (Nat.le_succ place)
    exact iff_of_true hle (by linarith)
  · rcases hnearest with ⟨h, hp⟩ | ⟨h, hp⟩ | ⟨h, hp⟩
    · exact iff_of_true hp.le h
    · exact iff_of_false (by omega) h.not_gt
    · exact iff_of_false (by omega) h.not_lt
  · -- the lower neighbour is beyond already
    have hbeyond : ¬ nearestPlace d.num d.den ≤ place := by omega
    have h1 := unitsAt_le_unitsAt (show place + 1 ≤ below from hgt)
    have h2 := unitsAt_le_unitsAt (Nat.le_succ place)
    exact iff_of_false hbeyond (by linarith)

/-- The place that follows is one step further, whose length goes by the doublings. -/
theorem unitsAt_succ {e m : ℕ} (hm : m < 2 * blockSize) (he : e = 0 ∨ blockSize ≤ m) :
    unitsAt (e * blockSize + m + 1) = unitsAt (e * blockSize + m) + 2 ^ e := by
  rw [unitsAt_mul_add hm he, unitsAt_mul_add_succ hm he, Nat.succ_mul]

/-- The last finite magnitude is one step of `2 ^ 2045` units before the place that follows. -/
theorem unitsAt_last : unitsAt finiteCount = unitsAt (finiteCount - 1) + 2 ^ 2045 := by
  have hpos := blockSize_pos
  have hcount : finiteCount = 2045 * blockSize + (2 * blockSize - 1) + 1 := by
    rw [finiteCount]
    omega
  rw [hcount, Nat.add_sub_cancel]
  exact unitsAt_succ (by omega) (Or.inr (by omega))

theorem unitsPerOne_cast : (unitsPerOne : ℚ) = 2 ^ 1074 := by
  rw [unitsPerOne_eq, Nat.cast_pow, Nat.cast_ofNat]

theorem unitsPerOne_pos : (0 : ℚ) < unitsPerOne := by
  rw [unitsPerOne_cast]
  exact pow_pos two_pos _

/-- The middle behind the last finite place. -/
theorem unitsAt_last_add_unitsAt_finiteCount :
    (unitsAt (finiteCount - 1) : ℚ) + unitsAt finiteCount
      = 2 * ((2 ^ 1024 - 2 ^ 970) * unitsPerOne) := by
  have hlast := congrArg (Nat.cast (R := ℚ)) unitsAt_last
  rw [Nat.cast_add, Nat.cast_pow, Nat.cast_ofNat] at hlast
  have hnext := congrArg (Nat.cast (R := ℚ)) unitsAt_finiteCount
  rw [Nat.cast_pow, Nat.cast_ofNat] at hnext
  have hstep : (2 : ℚ) ^ 2045 = 2 * (2 ^ 970 * 2 ^ 1074) := by
    rw [← pow_add, ← pow_succ']
  have hbeyond : (2 : ℚ) ^ 2098 = 2 ^ 1024 * 2 ^ 1074 := pow_add 2 1024 1074
  rw [unitsPerOne_cast, sub_mul]
  -- powers this large are only compared with each other, never computed
  generalize (2 : ℚ) ^ 970 * 2 ^ 1074 = half at *
  generalize (2 : ℚ) ^ 1024 * 2 ^ 1074 = next at *
  generalize (2 : ℚ) ^ 2045 = step at *
  generalize (2 : ℚ) ^ 2098 = beyond at *
  linarith

/-- **A decimal is rounded to a finite number exactly below `2 ^ 1024 - 2 ^ 970`.** -/
theorem isFinite_toBinary64_iff :
    d.toBinary64.isFinite = true ↔ d.magnitude < 2 ^ 1024 - 2 ^ 970 := by
  have hpos : 0 < finiteCount := by decide
  have hodd : (finiteCount - 1) % 2 = 1 := by decide
  have hfinite : d.toBinary64.isFinite = true ↔ nearestPlace d.num d.den ≤ finiteCount - 1 := by
    rw [toBinary64_eq_ofRatio, ofRatio]
    split
    · next h => exact iff_of_true rfl (by omega)
    · next h => exact iff_of_false Bool.false_ne_true (by omega)
  rw [hfinite, d.nearestPlace_le_iff_of_odd hodd, Nat.sub_add_cancel hpos,
    unitsAt_last_add_unitsAt_finiteCount, units, mul_lt_mul_iff_right₀ two_pos,
    mul_lt_mul_iff_left₀ unitsPerOne_pos]

end Decimal

/-! ## The nearest finite number -/

namespace Binary64

/-- A finite number that is as near to a rational number as any finite number is. -/
def IsNearest (q : ℚ) (x : Binary64) : Prop :=
  ∃ c, x.quantity = .units c ∧
    ∀ (y : Binary64) (n : ℤ), y.quantity = .units n → |q - c / 2 ^ 1074| ≤ |q - n / 2 ^ 1074|

theorem IsNearest.isFinite {q : ℚ} {x : Binary64} (hx : IsNearest q x) : x.isFinite = true := by
  obtain ⟨c, hc, -⟩ := hx
  cases x with
  | finite negative place => rfl
  | infinite negative => cases hc
  | nan payload => cases hc

/-- The units that a finite number is. -/
theorem quantity_eq_units_iff {x : Binary64} {n : ℤ} :
    x.quantity = .units n ↔ ∃ negative place, x = .finite negative place ∧
      n = if negative then -(unitsAt place : ℤ) else unitsAt place := by
  cases x with
  | finite negative place => simp [quantity, eq_comm]
  | infinite negative => simp [quantity]
  | nan payload => simp [quantity]

/-- A sign in front of one of two magnitudes does not bring them nearer. -/
theorem abs_sub_le_of_signs {a b : ℚ} (ha : 0 ≤ a) (hb : 0 ≤ b) (s t : Bool) :
    |a - b| ≤ |(if s then -a else a) - (if t then -b else b)| := by
  have hsum : |a - b| ≤ a + b := abs_sub_le_of_nonneg_of_le ha (by linarith) hb (by linarith)
  cases s <;> cases t <;> simp only [Bool.false_eq_true, if_false, if_true]
  · exact le_rfl
  · rw [sub_neg_eq_add]
    exact le_trans hsum (le_abs_self _)
  · rw [← neg_add', abs_neg]
    exact le_trans hsum (le_abs_self _)
  · rw [neg_sub_neg, abs_sub_comm]

end Binary64

namespace Decimal

/-- The number that a decimal is. -/
def value (d : Decimal) : ℚ := if d.negative then -d.magnitude else d.magnitude

theorem value_mul_unitsPerOne (d : Decimal) :
    d.value * unitsPerOne = if d.negative then -d.units else d.units := by
  rw [value, units]
  split
  · exact neg_mul _ _
  · rfl

/-- Distances are compared in units as they are compared in numbers. -/
theorem abs_sub_div (d : Decimal) (n : ℤ) :
    |d.value - n / 2 ^ 1074|
      = |(if d.negative then -d.units else d.units) - n| / unitsPerOne := by
  have hscale := unitsPerOne_pos
  rw [← value_mul_unitsPerOne, ← unitsPerOne_cast, ← abs_of_pos hscale, ← abs_div, sub_div,
    abs_of_pos hscale, mul_div_cancel_right₀ _ hscale.ne']

/-- **The nearest binary number is the nearest**, whenever it is finite. -/
theorem isNearest_toBinary64 {d : Decimal} (hfinite : d.toBinary64.isFinite = true) :
    IsNearest d.value d.toBinary64 := by
  obtain ⟨p, hp, hplace⟩ : ∃ p, d.toBinary64 = .finite d.negative p ∧
      nearestPlace d.num d.den = p := by
    rw [toBinary64_eq_ofRatio, ofRatio] at hfinite ⊢
    split at hfinite
    · next h => exact ⟨⟨_, h⟩, dif_pos h, rfl⟩
    · cases hfinite
  refine ⟨_, quantity_eq_units_iff.2 ⟨_, _, hp, rfl⟩, ?_⟩
  intro y n hy
  obtain ⟨negative, place, rfl, rfl⟩ := quantity_eq_units_iff.1 hy
  rw [abs_sub_div, abs_sub_div]
  refine div_le_div_of_nonneg_right ?_ (Nat.cast_nonneg _)
  -- the sign is the same on the left, so only magnitudes are compared there
  calc |(if d.negative then -d.units else d.units)
          - ((if d.negative then -(unitsAt p : ℤ) else unitsAt p : ℤ) : ℚ)|
      = |d.units - unitsAt p| := by
        split
        · push_cast
          rw [neg_sub_neg, abs_sub_comm]
        · rw [Int.cast_natCast]
    _ ≤ |d.units - unitsAt place| := by
        rw [← hplace]
        exact d.abs_units_sub_nearestPlace_le place
    _ ≤ |(if d.negative then -d.units else d.units)
          - (if negative then -(unitsAt place : ℚ) else unitsAt place)| :=
        abs_sub_le_of_signs d.units_nonneg (Nat.cast_nonneg _) _ _
    _ = _ := by
        push_cast
        rfl

end Decimal

end FilterQuery
