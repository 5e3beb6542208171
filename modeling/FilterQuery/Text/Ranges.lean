/-
Sets of characters given as ranges of code points.

The properties of characters that this library needs beyond ASCII (letters that carry case, marks
that do not interrupt a word, characters that are not shown) are tables of closed ranges. One
membership test serves them all.
-/

set_option autoImplicit false

namespace FilterQuery.Text

/-- Closed ranges of code points, in increasing order. -/
abbrev Ranges := List (Nat × Nat)

namespace Ranges

/-- A character belongs to a set when one of its ranges holds its code point. -/
def contains (ranges : Ranges) (c : Char) : Bool :=
  ranges.any fun (first, last) => first ≤ c.toNat && c.toNat ≤ last

end Ranges

end FilterQuery.Text
