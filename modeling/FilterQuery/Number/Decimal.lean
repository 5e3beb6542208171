/-
Decimal numbers: a sign, a coefficient and a power of ten.

This is what a numeral such as `-12.5e3` denotes, exactly. Its nearest binary number is found in
exact arithmetic; the powers of ten involved would be unbounded for a numeral such as `1e999999999`,
so two cases are decided beforehand by size alone: from `10 ^ 401` on every magnitude is infinite,
and below `10 ^ (-400)` every magnitude is zero.
-/
import FilterQuery.Number.Binary64

set_option autoImplicit false

namespace FilterQuery

/-- The number `coefficient * 10 ^ exponent`, or its negative. -/
structure Decimal where
  negative : Bool
  coefficient : Nat
  exponent : Int
deriving DecidableEq, Repr

namespace Decimal

/-- The place of the nearest magnitude among the finite ones and those beyond them. The coefficient
lies below `10 ^ (log2 coefficient + 1)`, which is what the bound on small exponents rests on. -/
def place (d : Decimal) : Nat :=
  if d.coefficient = 0 then 0
  else if 400 < d.exponent then Binary64.finiteCount
  else if d.exponent + d.coefficient.log2 + 1 < -400 then 0
  else Binary64.nearestPlace (d.coefficient * Nat.pow 10 d.exponent.toNat)
    (Nat.pow 10 (-d.exponent).toNat)

/-- The nearest binary number. -/
def toBinary64 (d : Decimal) : Binary64 :=
  if h : d.place < Binary64.finiteCount then .finite d.negative ⟨d.place, h⟩
  else .infinite d.negative

end Decimal

end FilterQuery
