/-
The lenient reading of floating-point numbers.

Beyond numerals this reading accepts the words for infinity and for what is not a number, in any
case and with a sign, and underscores that group digits, provided each stands between two digits. It
is used only on texts that were not classified before; classification accepts numerals alone.
-/
import FilterQuery.Number.Numeral

set_option autoImplicit false

namespace FilterQuery.Lenient

open FilterQuery.Text

def isDigit (c : Char) : Bool := (digitValue? c).isSome

/-- The text without its underscores, if each of them stands between two digits; `afterDigit` says
whether a digit stands before the text. -/
def dropUnderscores (afterDigit : Bool) : List Char → Option (List Char)
  | [] => some []
  | c :: rest =>
    if c = '_' then
      if afterDigit && rest.head?.any isDigit then dropUnderscores false rest else none
    else (dropUnderscores (isDigit c) rest).map (c :: ·)

/-- The word for an infinite or undefined number, after its sign. -/
def ofWord? (negative : Bool) (word : List Char) : Option Binary64 :=
  let word := word.map Char.toLower
  if word = "inf".toList || word = "infinity".toList then some (.infinite negative)
  else if word = "nan".toList then some (.nan 0)
  else none

/-- The number that a text without blanks around it spells. -/
def number? (s : List Char) : Option Binary64 := do
  let s ← dropUnderscores false s
  let (negative, word) := Numeral.takeSign s
  match ofWord? negative word with
  | some x => some x
  | none => (Numeral.ofChars? s).map (·.toDecimal.toBinary64)

end FilterQuery.Lenient
