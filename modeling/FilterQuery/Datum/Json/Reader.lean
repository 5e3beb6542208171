/-
Reading JSON.

The answers of the program are for other programs, which read them as JSON. This reader is what is
assumed of them. It accepts what the grammar of JSON allows and nothing else: numbers have no plus
sign, no zeros in front and a digit on either side of the point; in a text, control characters are
escaped; an escaped unit of a pair must be followed by the other one. Blanks may stand between the
parts. A number is an integer when it has neither point nor exponent, and the nearest binary number
otherwise. Entries of a record are kept in order.

Whatever is read uses up a character at least, so the length of a text bounds the steps.
-/
import FilterQuery.Datum.Json
import FilterQuery.Number.Numeral

set_option autoImplicit false

namespace FilterQuery.Json

/-! ## Blanks -/

def isBlank (c : Char) : Bool :=
  c = ' ' || c = '\t' || c = '\n' || c = '\r'

/-- A text without the blanks in front of it. -/
def skip (s : List Char) : List Char :=
  s.dropWhile isBlank

/-! ## Texts -/

/-- The value of a hexadecimal digit. -/
def hexValue? (c : Char) : Option Nat :=
  if c.isDigit then some (c.toNat - '0'.toNat)
  else if 'a' ≤ c && c ≤ 'f' then some (c.toNat - 'a'.toNat + 10)
  else if 'A' ≤ c && c ≤ 'F' then some (c.toNat - 'A'.toNat + 10)
  else none

/-- The UTF-16 unit that is written in front of a text. -/
def takeUnit? : List Char → Option (Nat × List Char)
  | a :: b :: c :: d :: rest => do
    let a ← hexValue? a
    let b ← hexValue? b
    let c ← hexValue? c
    let d ← hexValue? d
    return (16 * (16 * (16 * a + b) + c) + d, rest)
  | _ => none

/-- Whether a unit is the first of a pair. -/
def isHigh (unit : Nat) : Bool := 0xd800 ≤ unit && unit < 0xdc00

/-- Whether a unit is the second of a pair. -/
def isLow (unit : Nat) : Bool := 0xdc00 ≤ unit && unit < 0xe000

/-- The character of a pair of units. -/
def ofPair (high low : Nat) : Char :=
  Char.ofNat (0x10000 + (high - 0xd800) * 0x400 + (low - 0xdc00))

/-- The character that is written by units in front of a text. -/
def takeUnits? (s : List Char) : Option (Char × List Char) :=
  match takeUnit? s with
  | none => none
  | some (unit, rest) =>
    if isHigh unit then
      match rest with
      | '\\' :: 'u' :: rest =>
        match takeUnit? rest with
        | some (low, rest) => if isLow low then some (ofPair unit low, rest) else none
        | none => none
      | _ => none
    else if isLow unit then none
    else some (Char.ofNat unit, rest)

/-- The character that is escaped in front of a text, behind the backslash. -/
def takeEscape? : List Char → Option (Char × List Char)
  | '"' :: rest => some ('"', rest)
  | '\\' :: rest => some ('\\', rest)
  | '/' :: rest => some ('/', rest)
  | 'b' :: rest => some ('\x08', rest)
  | 'f' :: rest => some ('\x0c', rest)
  | 'n' :: rest => some ('\n', rest)
  | 'r' :: rest => some ('\r', rest)
  | 't' :: rest => some ('\t', rest)
  | 'u' :: rest => takeUnits? rest
  | _ => none

/-- The characters up to the closing quote. -/
def takeText? : (steps : Nat) → List Char → Option (List Char × List Char)
  | 0, _ => none
  | _, [] => none
  | steps + 1, c :: rest =>
    if c = '"' then some ([], rest)
    else if c = '\\' then do
      let (c, rest) ← takeEscape? rest
      let (cs, rest) ← takeText? steps rest
      return (c :: cs, rest)
    else if c.toNat < 0x20 then none
    else do
      let (cs, rest) ← takeText? steps rest
      return (c :: cs, rest)

/-! ## Numbers -/

/-- The characters of numbers. -/
def isNumberSign (c : Char) : Bool :=
  c.isDigit || ['-', '+', '.', 'e', 'E'].contains c

/-- Whether a numeral has digits before the point, no zero in front of them, and digits after the
point if there is one. -/
def isStrict (n : Numeral) : Bool :=
  n.whole ≠ [] && (n.whole.head? ≠ some 0 || n.whole.length = 1) && n.fraction ≠ some []

/-- The value of a numeral. -/
def ofNumeral (n : Numeral) : Scalar :=
  if n.isInteger then .int n.toInt else .float n.toDecimal.toBinary64

/-- The number that a text consists of. -/
def number? (s : List Char) : Option Scalar :=
  if s.head? = some '+' then none
  else ((Numeral.ofChars? s).filter isStrict).map ofNumeral

/-! ## Values -/

/-- The scalar in front of a text. -/
def takeScalar? : List Char → Option (Scalar × List Char)
  | '"' :: rest => (takeText? rest.length rest).map fun (cs, rest) => (.text (String.ofList cs), rest)
  | 'n' :: 'u' :: 'l' :: 'l' :: rest => some (.null, rest)
  | 't' :: 'r' :: 'u' :: 'e' :: rest => some (.bool true, rest)
  | 'f' :: 'a' :: 'l' :: 's' :: 'e' :: rest => some (.bool false, rest)
  | s => (number? (s.takeWhile isNumberSign)).map fun v => (v, s.dropWhile isNumberSign)

section Enclosed

variable {α : Type} (takeOne : List Char → Option (α × List Char)) (closing : Char)

/-- What stands between commas up to the closing bracket, at least one. -/
def takeMany? : (steps : Nat) → List Char → Option (List α × List Char)
  | 0, _ => none
  | steps + 1, s =>
    match takeOne s with
    | none => none
    | some (a, rest) =>
      match skip rest with
      | [] => none
      | c :: rest =>
        if c = closing then some ([a], rest)
        else if c = ',' then (takeMany? steps rest).map fun (as, rest) => (a :: as, rest)
        else none

/-- What stands between commas up to the closing bracket. -/
def takeEnclosed? (s : List Char) : Option (List α × List Char) :=
  match skip s with
  | [] => none
  | c :: rest => if c = closing then some ([], rest) else takeMany? takeOne closing s.length s

end Enclosed

/-- A key with its value. -/
def takeMember? (takeOne : List Char → Option (Datum × List Char)) (s : List Char) :
    Option ((String × Datum) × List Char) :=
  match skip s with
  | '"' :: rest =>
    match takeText? rest.length rest with
    | none => none
    | some (key, rest) =>
      match skip rest with
      | ':' :: rest => (takeOne rest).map fun (d, rest) => ((String.ofList key, d), rest)
      | _ => none
  | _ => none

/-- The value in front of a text, in which lists and records may be nested `steps` deep. -/
def takeValue? : (steps : Nat) → List Char → Option (Datum × List Char)
  | 0, _ => none
  | steps + 1, s =>
    match skip s with
    | '[' :: rest =>
      (takeEnclosed? (takeValue? steps) ']' rest).map fun (items, rest) => (.list items, rest)
    | '\x7b' :: rest =>
      (takeEnclosed? (takeMember? (takeValue? steps)) '\x7d' rest).map
        fun (entries, rest) => (.record entries, rest)
    | s => (takeScalar? s).map fun (v, rest) => (.scalar v, rest)

/-- The datum that a text denotes, if it is JSON. -/
def read? (s : String) : Option Datum :=
  match takeValue? s.toList.length s.toList with
  | some (d, rest) => if skip rest = [] then some d else none
  | none => none

end FilterQuery.Json
