/-
Rounding to the nearest magnitude.

A place of the list of magnitudes is a number of doublings `e` and a count `m` of steps of `2 ^ e`
units, with `m` in the upper half of its range unless nothing was doubled. Every fact about the list
comes from the one equation for such a pair (`unitsAt_mul_add`): the next place is one step further,
so the list increases, and the logarithm finds the doublings again, so `placeBelow` is what its name
says (`placeBelow_spec`).

Of rounding itself three facts are needed. It looks at the quotient alone, it keeps what is a
magnitude already, and it can be decided by size far from the finite magnitudes. The third is what
lets the nearest number of a decimal be found without its power of ten.
-/
import FilterQuery.Number.Binary64
import Mathlib.Order.Monotone.Basic
import Mathlib.Tactic.Linarith
import Mathlib.Tactic.Positivity
import Mathlib.Tactic.Ring

set_option autoImplicit false

namespace FilterQuery.Binary64

/-! ## The list of magnitudes -/

/-- Powers are defined with the function that the kernel computes with; this is the one that has
laws. -/
theorem natPow_eq (a n : Nat) : Nat.pow a n = a ^ n := rfl

theorem blockSize_eq : blockSize = 2 ^ 52 := natPow_eq 2 52

theorem blockSize_pos : 0 < blockSize := by
  rw [blockSize_eq]
  positivity

/-- The magnitude after `e` doublings and `m` steps. The second hypothesis makes the pair unique: a
count in the lower half belongs to fewer doublings, unless there are none. -/
theorem unitsAt_mul_add {e m : Nat} (hm : m < 2 * blockSize) (he : e = 0 ∨ blockSize ≤ m) :
    unitsAt (e * blockSize + m) = m * 2 ^ e := by
  rcases Nat.lt_or_ge m blockSize with hlt | hge
  · have he0 : e = 0 := he.resolve_right (Nat.not_le.2 hlt)
    rw [he0, Nat.zero_mul, Nat.zero_add, unitsAt, if_pos hlt, pow_zero, Nat.mul_one]
  · obtain ⟨r, rfl⟩ := Nat.exists_eq_add_of_le hge
    have hr : r < blockSize := by omega
    have hplace : e * blockSize + (blockSize + r) = r + (e + 1) * blockSize := by ring
    have hdiv : (r + (e + 1) * blockSize) / blockSize = e + 1 := by
      rw [Nat.add_mul_div_right _ _ blockSize_pos, Nat.div_eq_of_lt hr, Nat.zero_add]
    have hmod : (r + (e + 1) * blockSize) % blockSize = r := by
      rw [Nat.add_mul_mod_self_right, Nat.mod_eq_of_lt hr]
    have hbig : ¬ r + (e + 1) * blockSize < blockSize := by
      rw [Nat.not_lt, Nat.add_mul, Nat.one_mul]
      omega
    rw [hplace, unitsAt, if_neg hbig, hdiv, hmod, Nat.add_sub_cancel]
    rfl

/-- Every place is some doublings and some steps. -/
theorem exists_eq_mul_add (place : Nat) :
    ∃ e m, place = e * blockSize + m ∧ m < 2 * blockSize ∧ (e = 0 ∨ blockSize ≤ m) := by
  rcases Nat.lt_or_ge place blockSize with hlt | hge
  · exact ⟨0, place, by omega, by omega, Or.inl rfl⟩
  · have hpos := blockSize_pos
    have hdiv : 1 ≤ place / blockSize := (Nat.one_le_div_iff hpos).2 hge
    have hmod : place % blockSize < blockSize := Nat.mod_lt _ hpos
    refine ⟨place / blockSize - 1, blockSize + place % blockSize, ?_, by omega, by omega⟩
    obtain ⟨q, hq⟩ := Nat.exists_eq_add_of_le hdiv
    have hsplit := Nat.div_add_mod place blockSize
    rw [hq] at hsplit ⊢
    rw [Nat.add_sub_cancel_left]
    rw [Nat.mul_add, Nat.mul_one, Nat.mul_comm] at hsplit
    omega

/-- The next place is one step further, also where the steps double. -/
theorem unitsAt_mul_add_succ {e m : Nat} (hm : m < 2 * blockSize) (he : e = 0 ∨ blockSize ≤ m) :
    unitsAt (e * blockSize + m + 1) = (m + 1) * 2 ^ e := by
  rcases Nat.lt_or_ge (m + 1) (2 * blockSize) with hlt | hge
  · rw [Nat.add_assoc]
    exact unitsAt_mul_add hlt (by omega)
  · -- the count is full: one step more is the first of the next doubling
    have hfull : m + 1 = 2 * blockSize := by omega
    have hnext : e * blockSize + m + 1 = (e + 1) * blockSize + blockSize := by
      rw [Nat.add_assoc, hfull]
      ring
    rw [hnext, unitsAt_mul_add (by have := blockSize_pos; omega) (Or.inr (Nat.le_refl _)), hfull]
    ring

theorem unitsAt_strictMono : StrictMono unitsAt := by
  refine strictMono_nat_of_lt_succ (fun place => ?_)
  obtain ⟨e, m, rfl, hm, he⟩ := exists_eq_mul_add place
  rw [unitsAt_mul_add hm he, unitsAt_mul_add_succ hm he]
  exact Nat.mul_lt_mul_of_pos_right (Nat.lt_succ_self m) (by positivity)

/-! ## Finding a place -/

/-- The doublings that the logarithm finds leave a count in its range. -/
theorem div_log2_bounds (units : Nat) :
    units / 2 ^ (units.log2 - 52) < 2 * blockSize ∧
      (units.log2 - 52 = 0 ∨ blockSize ≤ units / 2 ^ (units.log2 - 52)) := by
  have hupper : units < 2 ^ (units.log2 + 1) := Nat.lt_log2_self
  constructor
  · rw [Nat.div_lt_iff_lt_mul (by positivity), blockSize_eq]
    refine lt_of_lt_of_le hupper ?_
    calc 2 ^ (units.log2 + 1) ≤ 2 ^ (53 + (units.log2 - 52)) :=
          Nat.pow_le_pow_right (by decide) (by omega)
      _ = 2 * 2 ^ 52 * 2 ^ (units.log2 - 52) := by rw [pow_add]; ring
  · rcases Nat.lt_or_ge 52 units.log2 with hbig | hsmall
    · right
      have hne : units ≠ 0 := by
        rintro rfl
        simp at hbig
      rw [Nat.le_div_iff_mul_le (by positivity), blockSize_eq, ← pow_add,
        Nat.add_sub_cancel' (Nat.le_of_lt hbig)]
      exact Nat.log2_self_le hne
    · left
      omega

/-- `placeBelow` is the last place that is not beyond the given units. -/
theorem placeBelow_spec (units : Nat) :
    unitsAt (placeBelow units) ≤ units ∧ units < unitsAt (placeBelow units + 1) := by
  obtain ⟨hm, he⟩ := div_log2_bounds units
  have hplace : placeBelow units
      = (units.log2 - 52) * blockSize + units / 2 ^ (units.log2 - 52) := rfl
  rw [hplace, unitsAt_mul_add hm he, unitsAt_mul_add_succ hm he]
  refine ⟨Nat.div_mul_le_self _ _, ?_⟩
  exact (Nat.div_lt_iff_lt_mul (by positivity)).1 (Nat.lt_succ_self _)

theorem le_placeBelow_iff {place units : Nat} :
    place ≤ placeBelow units ↔ unitsAt place ≤ units := by
  obtain ⟨hle, hlt⟩ := placeBelow_spec units
  constructor
  · exact fun h => le_trans (unitsAt_strictMono.monotone h) hle
  · intro h
    exact Nat.lt_succ_iff.1 (unitsAt_strictMono.lt_iff_lt.1 (lt_of_le_of_lt h hlt))

theorem placeBelow_unitsAt (place : Nat) : placeBelow (unitsAt place) = place := by
  refine le_antisymm ?_ (le_placeBelow_iff.2 le_rfl)
  exact unitsAt_strictMono.le_iff_le.1 (placeBelow_spec (unitsAt place)).1

/-! ## Rounding -/

theorem unitsPerOne_eq : unitsPerOne = 2 ^ 1074 := by
  delta unitsPerOne
  simp only [natPow_eq]

/-- **A magnitude is kept**: rounding a quotient that is one gives its place. -/
theorem nearestPlace_of_eq {num den place : Nat} (hden : 0 < den)
    (heq : num * unitsPerOne = unitsAt place * den) : nearestPlace num den = place := by
  -- Nothing is left over, which is less than half a step, however short the step is.
  have hlt : unitsAt place < unitsAt (place + 1) := unitsAt_strictMono (Nat.lt_succ_self place)
  have hmiddle : 2 * (unitsAt place * den) < (unitsAt place + unitsAt (place + 1)) * den := by
    nlinarith
  rw [nearestPlace]
  rw [heq, Nat.mul_div_cancel _ hden, placeBelow_unitsAt, if_pos hmiddle]

/-- Rounding looks at the quotient alone. -/
theorem nearestPlace_mul_mul {c : Nat} (hc : 0 < c) (num den : Nat) :
    nearestPlace (c * num) (c * den) = nearestPlace num den := by
  -- The common factor goes through every comparison that rounding makes.
  have hscale : ∀ a b : Nat, c * a < c * b ↔ a < b := fun a b => Nat.mul_lt_mul_left hc
  have hexact : c * num * unitsPerOne = c * (num * unitsPerOne) := Nat.mul_assoc _ _ _
  have hdouble : ∀ a : Nat, 2 * (c * a) = c * (2 * a) := fun a => Nat.mul_left_comm _ _ _
  have hmiddle : ∀ a : Nat, a * (c * den) = c * (a * den) := fun a => Nat.mul_left_comm _ _ _
  rw [nearestPlace, nearestPlace]
  rw [hexact, Nat.mul_div_mul_left _ _ hc, hdouble, hmiddle]
  simp only [hscale]

/-- Equal quotients are rounded alike. -/
theorem nearestPlace_congr {num den num' den' : Nat} (hden : 0 < den) (hden' : 0 < den')
    (heq : num * den' = num' * den) : nearestPlace num den = nearestPlace num' den' :=
  calc nearestPlace num den
    _ = nearestPlace (den' * num) (den' * den) := (nearestPlace_mul_mul hden' num den).symm
    _ = nearestPlace (den * num') (den * den') := by
        rw [Nat.mul_comm den' num, heq, Nat.mul_comm num' den, Nat.mul_comm den' den]
    _ = nearestPlace num' den' := nearestPlace_mul_mul hden num' den'

/-- Rounding never goes below the last place that is not beyond. -/
theorem placeBelow_le_nearestPlace (num den : Nat) :
    placeBelow (num * unitsPerOne / den) ≤ nearestPlace num den := by
  rw [nearestPlace]
  split
  · exact le_rfl
  · split
    · exact Nat.le_succ _
    · exact Nat.le_add_right _ _

/-- What is at least the first magnitude that is not finite is not rounded to a finite one. -/
theorem finiteCount_le_nearestPlace {num den : Nat} (hden : 0 < den)
    (hbig : unitsAt finiteCount * den ≤ num * unitsPerOne) :
    finiteCount ≤ nearestPlace num den := by
  refine le_trans ?_ (placeBelow_le_nearestPlace num den)
  rw [le_placeBelow_iff, Nat.le_div_iff_mul_le hden]
  exact hbig

/-- Less than half a unit is rounded to zero. -/
theorem nearestPlace_eq_zero {num den : Nat} (hsmall : 2 * (num * unitsPerOne) < den) :
    nearestPlace num den = 0 := by
  have hzero : placeBelow 0 = 0 := by decide
  have hfirst : unitsAt 0 + unitsAt (0 + 1) = 1 := by decide
  rw [nearestPlace]
  rw [Nat.div_eq_of_lt (by omega), hzero, hfirst, Nat.one_mul, if_pos hsmall]

theorem unitsAt_finiteCount : unitsAt finiteCount = 2 ^ 2098 := by
  have hcount : finiteCount = 2046 * blockSize + blockSize := by
    rw [finiteCount]
    ring
  rw [hcount, unitsAt_mul_add (by have := blockSize_pos; omega) (Or.inr le_rfl), blockSize_eq,
    ← pow_add]

end FilterQuery.Binary64
