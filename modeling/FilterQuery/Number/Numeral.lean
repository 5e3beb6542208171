/-
Numerals: the spelling of numbers in a query string.

A numeral is an optional sign, digits with at most one point among or around them, and an optional
exponent: `12`, `+1.`, `.5`, `-1.5e-3`. The digits may come from any script. Without point and
exponent it is an integer, of any size up to `integerDigitLimit` digits, and its value is exact;
otherwise it is a decimal number and its value is the nearest binary one.

The parts of a numeral are kept as the lists of digit values, so the number denoted, exact in both
cases, can be read off them.
-/
import FilterQuery.Number.Decimal
import FilterQuery.Text.Digit

set_option autoImplicit false

namespace FilterQuery

open FilterQuery.Text

/-- The parts of a numeral: the digits before the point, those after it if there is a point, and
the sign and digits of the exponent if there is one. -/
structure Numeral where
  negative : Bool
  whole : List Nat
  fraction : Option (List Nat)
  exponent : Option (Bool × List Nat)
deriving DecidableEq, Repr

namespace Numeral

/-- The most digits that an integer may have. -/
def integerDigitLimit : Nat := 4300

/-! ## Reading -/

/-- An optional sign in front of a text; whether it was a minus sign. -/
def takeSign : List Char → Bool × List Char
  | '-' :: rest => (true, rest)
  | '+' :: rest => (false, rest)
  | s => (false, s)

/-- The longest row of digits in front of a text. -/
def takeDigits : List Char → List Nat × List Char
  | [] => ([], [])
  | c :: rest =>
    match digitValue? c with
    | some d => (d :: (takeDigits rest).1, (takeDigits rest).2)
    | none => ([], c :: rest)

/-- The point and the digits after it, in front of a text. -/
def takeFraction : List Char → Option (List Nat) × List Char
  | '.' :: rest => (some (takeDigits rest).1, (takeDigits rest).2)
  | s => (none, s)

/-- The exponent that a text consists of; no text means no exponent. -/
def exponent? : List Char → Option (Option (Bool × List Nat))
  | [] => some none
  | mark :: rest =>
    if mark = 'e' || mark = 'E' then
      let (negative, rest) := takeSign rest
      let (digits, rest) := takeDigits rest
      if digits ≠ [] && rest = [] then some (some (negative, digits)) else none
    else none

/-- The numeral that a text consists of. -/
def ofChars? (s : List Char) : Option Numeral :=
  let (negative, s) := takeSign s
  let (whole, s) := takeDigits s
  let (fraction, s) := takeFraction s
  if whole = [] && fraction.getD [] = [] then none
  else (exponent? s).map fun exponent => { negative, whole, fraction, exponent }

/-! ## The number denoted -/

/-- Whether a numeral is an integer: it has neither point nor exponent. -/
def isInteger (n : Numeral) : Bool :=
  n.fraction.isNone && n.exponent.isNone

/-- The value of an integer. -/
def toInt (n : Numeral) : Int :=
  if n.negative then -(ofDigits n.whole : Int) else ofDigits n.whole

/-- The power of ten written after the mark. -/
def power (n : Numeral) : Int :=
  match n.exponent with
  | none => 0
  | some (negative, digits) => if negative then -(ofDigits digits : Int) else ofDigits digits

/-- The number denoted, exactly. -/
def toDecimal (n : Numeral) : Decimal where
  negative := n.negative
  coefficient := ofDigits (n.whole ++ n.fraction.getD [])
  exponent := n.power - (n.fraction.getD []).length

/-- Whether the number can be held: an integer within the digit limit, or a decimal number whose
nearest binary number is finite. -/
def isHeld (n : Numeral) : Bool :=
  if n.isInteger then n.whole.length ≤ integerDigitLimit else n.toDecimal.toBinary64.isFinite

end Numeral

end FilterQuery
