/-
Data as JSON text.

Items are separated by a comma and a blank, and a key from its value by a colon and a blank; there
are no line ends. Texts are escaped as little as the chosen character set allows: quotes,
backslashes and control characters always, and with the ASCII set every other character beyond it,
by UTF-16 units in lower-case hexadecimal digits. The floating-point values that are no JSON numbers
have names.
-/
import FilterQuery.Datum

set_option autoImplicit false

namespace FilterQuery

open FilterQuery.Text

namespace Json

/-- The characters that may stand for themselves in a JSON text. -/
inductive Charset where
  | ascii
  | all
deriving DecidableEq, Repr

/-- The names of the numbers that are not finite. -/
def specialNames : SpecialNames := ⟨"Infinity", "NaN"⟩

/-- One UTF-16 unit as an escape. -/
def escapeUnit (n : Nat) : List Char :=
  '\\' :: 'u' :: hexDigits 4 n

/-- A character as an escape of one unit, or of two above U+FFFF. -/
def escapeNumber (c : Char) : List Char :=
  let n := c.toNat
  if n < 0x10000 then escapeUnit n
  else
    escapeUnit (0xd800 + (n - 0x10000) / 0x400) ++ escapeUnit (0xdc00 + (n - 0x10000) % 0x400)

/-- Whether a character other than the quote and the backslash stands for itself. -/
def isShown (charset : Charset) (c : Char) : Bool :=
  match charset with
  | .ascii => 0x20 ≤ c.toNat && c.toNat < 0x7f
  | .all => 0x20 ≤ c.toNat

/-- One character of a JSON text. -/
def escape (charset : Charset) (c : Char) : List Char :=
  if c = '"' || c = '\\' then ['\\', c]
  else if c = '\n' then ['\\', 'n']
  else if c = '\r' then ['\\', 'r']
  else if c = '\t' then ['\\', 't']
  else if c = '\x08' then ['\\', 'b']
  else if c = '\x0c' then ['\\', 'f']
  else if isShown charset c then [c]
  else escapeNumber c

/-- A text as a JSON text. -/
def ofText (charset : Charset) (s : String) : List Char :=
  '"' :: s.toList.flatMap (escape charset) ++ ['"']

def ofScalar (charset : Charset) : Scalar → List Char
  | .null => "null".toList
  | .bool value => (if value then "true" else "false").toList
  | .int value => (toString value).toList
  | .float value => (value.text specialNames).toList
  | .text value => ofText charset value

mutual

/-- A datum as JSON text. -/
def ofDatum (charset : Charset) : Datum → List Char
  | .scalar value => ofScalar charset value
  | .list items => Datum.enclose '[' (ofItems charset items) ']'
  | .record entries => Datum.enclose '\x7b' (ofEntries charset entries) '\x7d'

def ofItems (charset : Charset) : List Datum → List (List Char)
  | [] => []
  | item :: rest => ofDatum charset item :: ofItems charset rest

def ofEntries (charset : Charset) : List (String × Datum) → List (List Char)
  | [] => []
  | (key, value) :: rest =>
    (ofText charset key ++ ':' :: ' ' :: ofDatum charset value) :: ofEntries charset rest

end

end Json

/-- A datum as JSON text. -/
def Datum.toJson (d : Datum) (charset : Json.Charset) : String :=
  String.ofList (Json.ofDatum charset d)

end FilterQuery
