/-
Numbers in a literal.

A number is a row of decimal digits, perhaps with a fraction, an exponent and a `j` for imaginary
ones, or `0x`, `0o` or `0b` and digits of that base. Single low lines may stand between digits. A
number ends where its form ends; an ASCII letter right after it is a fault, unless it begins one of
the words that may follow a number.

Scanning and reading are apart: the scanner only finds the end, so that the reader can take the text
of a number at its word.
-/
import FilterQuery.Literal.Misreading
import FilterQuery.Text.Name

set_option autoImplicit false

namespace FilterQuery.Literal

open FilterQuery.Text

namespace Numeral

/-! ## Finding the end -/

/-- Whether a character is a digit in a base up to sixteen. -/
def isDigitIn (base : Nat) (c : Char) : Bool :=
  if c.isDigit then c.toNat - '0'.toNat < base
  else base = 16 && (('a' ≤ c && c ≤ 'f') || ('A' ≤ c && c ≤ 'F'))

/-- Whether a text goes on with one of the words that may follow a number. Of those that begin with
`i` only two letters are looked at. -/
def meetsWord (s : List Char) : Bool :=
  ["if", "in", "is"].any (fun word => word.toList.isPrefixOf s) ||
    ["and", "else", "for", "or", "not"].any fun word =>
      word.toList.isPrefixOf s && !(s.drop word.length).head?.any resemblesName

/-- The text after a number of some form, unless what follows keeps it from being one. -/
def ending (form : NumberForm) (s : List Char) : Except Misreading (List Char) :=
  match s with
  | c :: _ =>
    if resemblesName c && !isForeign c && !meetsWord s then .error (.badNumber form) else .ok s
  | [] => .ok s

/-- The text after the rest of a row of decimal digits. -/
def afterDigits : List Char → Except Misreading (List Char)
  | [] => .ok []
  | c :: rest =>
    if c.isDigit then afterDigits rest
    else if c = '_' then
      if rest.head?.any Char.isDigit then afterDigits rest else .error (.badNumber .decimal)
    else .ok (c :: rest)

/-- The text after the digits of a base other than ten; `expected` tells that a digit has to come. -/
def afterDigitsIn (base : Nat) (form : NumberForm) :
    (expected : Bool) → List Char → Except Misreading (List Char)
  | expected, [] => if expected then .error (.badNumber form) else .ok []
  | expected, c :: rest =>
    if isDigitIn base c then afterDigitsIn base form false rest
    else if c.isDigit then .error (.badDigit c form)
    else if expected then .error (.badNumber form)
    else if c = '_' then afterDigitsIn base form true rest
    else .ok (c :: rest)

/-- The text after a number of a base other than ten, by what follows its mark. -/
def afterMark (base : Nat) (form : NumberForm) (s : List Char) : Except Misreading (List Char) := do
  let digits := match s with
    | '_' :: rest => rest
    | s => s
  ending form (← afterDigitsIn base form true digits)

/-- The text after the zeros that a number begins with. -/
def afterZeros : List Char → Except Misreading (List Char)
  | [] => .ok []
  | c :: rest =>
    if c = '0' then afterZeros rest
    else if c = '_' then
      if rest.head?.any Char.isDigit then afterZeros rest else .error (.badNumber .decimal)
    else .ok (c :: rest)

/-- The text after an imaginary unit, if there is one, and so after the number. -/
def afterUnit (s : List Char) : Except Misreading (List Char) :=
  match s with
  | c :: rest => if c = 'j' || c = 'J' then ending .imaginary rest else ending .decimal s
  | [] => .ok s

/-- The text after an exponent, if there is one, and so after the number. The letter of the exponent
may also begin a word that follows. -/
def afterExponent (s : List Char) : Except Misreading (List Char) :=
  match s with
  | [] => .ok s
  | c :: rest =>
    if c = 'e' || c = 'E' then
      match rest with
      | d :: more =>
        if d.isDigit then do afterUnit (← afterDigits more)
        else if d = '+' || d = '-' then
          if more.head?.any Char.isDigit then do afterUnit (← afterDigits more)
          else .error (.badNumber .decimal)
        else ending .decimal s
      | [] => ending .decimal s
    else afterUnit s

/-- The text after a fraction whose point has been passed, and so after the number. -/
def afterPoint (s : List Char) : Except Misreading (List Char) :=
  if s.head?.any Char.isDigit then do afterExponent (← afterDigits s) else afterExponent s

/-- The text after a number that begins with a zero, which has been passed. -/
def afterZero (s : List Char) : Except Misreading (List Char) :=
  match s with
  | 'x' :: rest | 'X' :: rest => afterMark 16 .hexadecimal rest
  | 'o' :: rest | 'O' :: rest => afterMark 8 .octal rest
  | 'b' :: rest | 'B' :: rest => afterMark 2 .binary rest
  | s => do
    let rest ← afterZeros s
    let digits := rest.head?.any Char.isDigit
    let rest ← if digits then afterDigits rest else .ok rest
    match rest with
    | '.' :: rest => afterPoint rest
    | 'e' :: _ | 'E' :: _ => afterExponent rest
    | 'j' :: _ | 'J' :: _ => afterUnit rest
    | rest => if digits then .error .leadingZeros else ending .decimal rest

/-- The text after a number that begins with a digit, which has been passed. -/
def afterFirst (digit : Char) (s : List Char) : Except Misreading (List Char) :=
  if digit = '0' then afterZero s
  else do
    match ← afterDigits s with
    | '.' :: rest => afterPoint rest
    | rest => afterExponent rest

end Numeral

/-! ## Reading -/

/-- What a number is, as far as it matters to where it may stand. -/
inductive Numeral where
  | integer (value : Nat)
  | real
  | imaginary
deriving DecidableEq, Repr

namespace Numeral

/-- The most decimal digits that an integer may be written with. -/
def mostDigits : Nat := 4300

/-- The value of a digit. -/
def digitValue (c : Char) : Nat :=
  if c.isDigit then c.toNat - '0'.toNat
  else if 'a' ≤ c then c.toNat - 'a'.toNat + 10
  else c.toNat - 'A'.toNat + 10

/-- The value of a row of digits. -/
def valueIn (base : Nat) (digits : List Char) : Nat :=
  digits.foldl (fun n c => base * n + digitValue c) 0

/-- Reads the text of a number. -/
def ofText (text : List Char) : Except Misreading Numeral :=
  match text.filter (· != '_') with
  | '0' :: 'x' :: digits | '0' :: 'X' :: digits => .ok (.integer (valueIn 16 digits))
  | '0' :: 'o' :: digits | '0' :: 'O' :: digits => .ok (.integer (valueIn 8 digits))
  | '0' :: 'b' :: digits | '0' :: 'B' :: digits => .ok (.integer (valueIn 2 digits))
  | text =>
    if text.any fun c => c = 'j' || c = 'J' then .ok .imaginary
    else if text.any fun c => c = '.' || c = 'e' || c = 'E' then .ok .real
    else if mostDigits < text.length && text.head? != some '0' then
      .error (.tooManyDigits text.length)
    else .ok (.integer (valueIn 10 text))

end Numeral

end FilterQuery.Literal
