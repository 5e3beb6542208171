/-
The shortest decimal spelling of a binary number.

A number is written with the fewest digits that read back as the same number, and among those with
the digits nearest to its value; of two equally near ones the even one. For each count of digits
from 1 to 17 only the two neighbours of the value on the grid of that many digits need to be tried:
if any point of a grid reads back, then one of those two does. Seventeen digits always suffice. The
search does not rely on that: its last resort is the exact value, so what it returns reads back for
a reason that needs no counting.

The digits are then laid out: as a plain decimal fraction when the exponent of the first digit is
between -4 and 15, in scientific notation otherwise. A fraction is always shown, if only as `.0`, so
that the spelling cannot be taken for an integer.
-/
import FilterQuery.Number.Decimal

set_option autoImplicit false

namespace FilterQuery

/-! ## The neighbours on a decimal grid -/

namespace Shortest

/-- The number of decimal digits of a positive number. -/
def digitCount (n : Nat) : Nat :=
  (Nat.toDigits 10 n).length

/-- The exponent of the first digit of `num / den`: the largest `p` with `10 ^ p ≤ num / den`. -/
def leadingExponent (num den : Nat) : Int :=
  if den ≤ num then (digitCount (num / den) : Int) - 1
  else -(digitCount ((den - 1) / num) : Int)

/-- The magnitude at `place` with `digits` digits, if such a decimal number reads back: the nearer
of the neighbours on the grid that do. -/
def withDigits? (place digits : Nat) : Option Decimal :=
  let num := Binary64.unitsAt place
  let den := Binary64.unitsPerOne
  let grid := leadingExponent num den + 1 - digits
  let num := num * Nat.pow 10 (-grid).toNat
  let den := den * Nat.pow 10 grid.toNat
  let below : Decimal := ⟨false, num / den, grid⟩
  let above : Decimal := ⟨false, num / den + 1, grid⟩
  let rest := 2 * (num % den)
  match below.place == place, above.place == place with
  | false, false => none
  | true, false => some below
  | false, true => some above
  | true, true =>
    some (if rest < den then below
      else if den < rest then above
      else if below.coefficient % 2 = 0 then below else above)

/-- The exact value of the magnitude at `place`: a unit is `5 ^ 1074 / 10 ^ 1074`. -/
def exact (place : Nat) : Decimal :=
  ⟨false, Binary64.unitsAt place * Nat.pow 5 1074, -1074⟩

/-- The shortest decimal number that reads back as the magnitude at `place`. -/
def ofPlace (place : Nat) : Decimal :=
  ((List.range 17).findSome? fun n => withDigits? place (n + 1)).getD (exact place)

/-! ## Laying the digits out -/

/-- The digits without the zeros at their end. -/
def dropZeros (digits : List Char) : List Char :=
  (digits.reverse.dropWhile (· = '0')).reverse

/-- The exponents of the first digit that are laid out as plain fractions. -/
def isPlain (exponent : Int) : Bool :=
  -4 ≤ exponent && exponent < 16

/-- A plain decimal fraction; `exponent` is that of the first digit. -/
def plain (digits : List Char) (exponent : Int) : List Char :=
  if exponent < 0 then
    '0' :: '.' :: List.replicate (-exponent - 1).toNat '0' ++ digits
  else
    let whole := exponent.toNat + 1
    digits.take whole ++ List.replicate (whole - digits.length) '0' ++ '.' ::
      (if digits.length ≤ whole then ['0'] else digits.drop whole)

/-- Scientific notation: the exponent has a sign and at least two digits. -/
def scientific (digits : List Char) (exponent : Int) : List Char :=
  let size := Nat.toDigits 10 exponent.natAbs
  digits.take 1 ++ (if digits.length ≤ 1 then [] else '.' :: digits.drop 1) ++
    'e' :: (if exponent < 0 then '-' else '+') ::
    (if size.length < 2 then '0' :: size else size)

/-- The spelling of a positive decimal number. -/
def layout (d : Decimal) : List Char :=
  let all := Nat.toDigits 10 d.coefficient
  let exponent := d.exponent + all.length - 1
  if isPlain exponent then plain (dropZeros all) exponent else scientific (dropZeros all) exponent

end Shortest

/-! ## The spelling of a number -/

/-- The spelling of a magnitude. -/
def Binary64.magnitudeText (place : Nat) : List Char :=
  if place = 0 then ['0', '.', '0'] else Shortest.layout (Shortest.ofPlace place)

/-- The spellings of the numbers that are not finite. -/
structure SpecialNames where
  infinity : String
  notANumber : String

/-- The spelling of a number. -/
def Binary64.text (names : SpecialNames) : Binary64 → String
  | .finite negative place =>
    String.ofList (if negative then '-' :: magnitudeText place else magnitudeText place)
  | .infinite negative => if negative then "-" ++ names.infinity else names.infinity
  | .nan _ => names.notANumber

/-- The spelling of numbers in displays and in query strings. -/
def SpecialNames.short : SpecialNames := ⟨"inf", "nan"⟩

end FilterQuery
