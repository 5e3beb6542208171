/-
A text displayed in quotes.

Reports show texts so that their ends and their invisible characters can be seen: in single quotes,
or in double quotes when the text holds a single quote and no double one. Inside, the backslash and
the closing quote are escaped, and so are line ends and tabs; any other character that is not shown
as it is appears as its code point in hexadecimal, with two, four or eight digits.
-/
import FilterQuery.Text.Printable

set_option autoImplicit false

namespace FilterQuery.Text

/-! ## Hexadecimal digits -/

/-- The lower-case hexadecimal digit of a number below sixteen. -/
def hexDigit (n : Nat) : Char :=
  Nat.digitChar (n % 16)

/-- The last `width` hexadecimal digits of a number. -/
def hexDigits : (width : Nat) → Nat → List Char
  | 0, _ => []
  | width + 1, n => hexDigits width (n / 16) ++ [hexDigit n]

@[simp] theorem length_hexDigits (width n : Nat) : (hexDigits width n).length = width := by
  induction width generalizing n with
  | zero => rfl
  | succ width ih => simp [hexDigits, ih]

/-! ## Quoting -/

namespace Quoted

/-- The quote that a text is displayed in. -/
def mark (s : List Char) : Char :=
  if s.contains '\'' && !s.contains '"' then '"' else '\''

/-- How a character is displayed between two `quote`s. -/
def escape (quote c : Char) : List Char :=
  if c = quote || c = '\\' then ['\\', c]
  else if c = '\n' then ['\\', 'n']
  else if c = '\r' then ['\\', 'r']
  else if c = '\t' then ['\\', 't']
  else if isPrintable c then [c]
  else if c.toNat < 0x100 then '\\' :: 'x' :: hexDigits 2 c.toNat
  else if c.toNat < 0x10000 then '\\' :: 'u' :: hexDigits 4 c.toNat
  else '\\' :: 'U' :: hexDigits 8 c.toNat

end Quoted

/-- The text in quotes. -/
def quoted (s : List Char) : List Char :=
  let quote := Quoted.mark s
  quote :: s.flatMap (Quoted.escape quote) ++ [quote]

end FilterQuery.Text
