/-
Scalar values: what a filter compares a field with.

Values are equal when they amount to the same thing: `1`, `1.0` and the truth value true are equal,
and so are the two zeros and false. Comparing in units of the smallest floating-point magnitude
makes this exact for integers of any size, where rounding them first would identify integers that
differ. A value's `sense` is what is left when spelling is forgotten, and equality is equality of
senses. What is not a number equals itself alone.
-/
import FilterQuery.Number.Shortest
import FilterQuery.Text.Quoted

set_option autoImplicit false

namespace FilterQuery

/-- A scalar value. -/
inductive Scalar where
  | null
  | bool (value : Bool)
  | int (value : Int)
  | float (value : Binary64)
  | text (value : String)
deriving DecidableEq

namespace Scalar

/-! ## Equality -/

/-- What a scalar amounts to. -/
inductive Sense where
  | null
  | quantity (value : Binary64.Quantity)
  | text (value : String)
deriving DecidableEq

/-- The sense of a scalar; truth values count as 0 and 1. -/
def sense : Scalar → Sense
  | .null => .null
  | .bool value => .quantity (.ofInt value.toInt)
  | .int value => .quantity (.ofInt value)
  | .float value => .quantity value.quantity
  | .text value => .text value

/-- Equality of scalars. -/
def same (a b : Scalar) : Bool :=
  a.sense = b.sense

/-! ## Spelling -/

/-- A scalar as a person reads it, a text as it is. -/
def plain : Scalar → List Char
  | .null => "None".toList
  | .bool value => (if value then "True" else "False").toList
  | .int value => (toString value).toList
  | .float value => (value.text .short).toList
  | .text value => value.toList

/-- A scalar as it is displayed in reports, a text in quotes. -/
def display : Scalar → List Char
  | .text value => Text.quoted value.toList
  | value => value.plain

end Scalar

end FilterQuery
