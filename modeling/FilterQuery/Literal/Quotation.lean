/-
Texts in quotes.

A text stands between two equal quotes, or between two groups of three, and then it may run over
several lines. Letters in front of it say what it is: `b` for bytes, `f` for a text with expressions
in it, `r` for one in which a backslash means itself. Elsewhere a backslash begins an escape, of
which only those that name a character by its number or its name can be wrong; any other character
after a backslash is taken as it is.

A fault in an escape is told by its place in the text when every character beyond ASCII is written
as an escape of ten characters.
-/
import FilterQuery.Literal.Misreading
import FilterQuery.Text.Name

set_option autoImplicit false

namespace FilterQuery.Literal

open FilterQuery.Text

/-- A text in quotes. -/
structure Quotation where
  raw : Bool
  bytes : Bool
  /-- Whether there may be expressions in the text. -/
  interpolated : Bool
  /-- What stands between the quotes. -/
  body : List Char
deriving DecidableEq, Repr

namespace Quotation

/-! ## Finding the end -/

/-- The letters in front of a quote, if they are some that may stand there. -/
def marks? (letters : List Char) : Option (List Char) :=
  let letters := letters.map Char.toLower
  if ["", "b", "r", "u", "f", "br", "rb", "fr", "rf"].any (·.toList = letters) then some letters
  else none

/-- What stands before a closing quote on the same line, and what follows it. -/
def cutShort (quote : Char) : List Char → Option (List Char × List Char)
  | [] => none
  | '\\' :: c :: rest => (cutShort quote rest).map fun (body, rest) => ('\\' :: c :: body, rest)
  | c :: rest =>
    if c = quote then some ([], rest)
    else if c = '\n' then none
    else (cutShort quote rest).map fun (body, rest) => (c :: body, rest)

/-- What stands before three closing quotes, and what follows them. -/
def cutLong (quote : Char) : List Char → Option (List Char × List Char)
  | [] => none
  | '\\' :: c :: rest => (cutLong quote rest).map fun (body, rest) => ('\\' :: c :: body, rest)
  | c :: rest =>
    if [quote, quote, quote].isPrefixOf (c :: rest) then some ([], rest.drop 2)
    else (cutLong quote rest).map fun (body, rest) => (c :: body, rest)

/-- The number of lines that are left behind by a text that does not end on its line. -/
def linesOfShort : List Char → Nat
  | [] => 0
  | '\\' :: '\n' :: rest => if rest = [] then 0 else linesOfShort rest + 1
  | '\\' :: _ :: rest => linesOfShort rest
  | c :: rest => if c = '\n' then 0 else linesOfShort rest

/-- The text whose opening quote has been passed on a line, and what follows it. -/
def cut (quote : Char) (line : Nat) (s : List Char) : Except Misreading (List Char × List Char) :=
  if [quote, quote].isPrefixOf s then
    let s := s.drop 2
    match cutLong quote s with
    | some found => .ok found
    | none => .error (.openText true (line + s.dropLast.count '\n'))
  else if s.head? = some quote then .ok ([], s.drop 1)
  else
    match cutShort quote s with
    | some found => .ok found
    | none => .error (.openText false (line + linesOfShort s))

/-! ## Escapes -/

/-- A text with its characters beyond ASCII written as escapes. -/
def spelled : List Char → List Char
  | [] => []
  | '\\' :: c :: rest =>
    if isForeign c then "\\u005c".toList ++ '\\' :: 'U' :: hexDigits 8 c.toNat ++ spelled rest
    else '\\' :: c :: spelled rest
  | c :: rest =>
    if isForeign c then '\\' :: 'U' :: hexDigits 8 c.toNat ++ spelled rest
    else if c = '\\' then "\\u005c".toList
    else c :: spelled rest

/-- Whether a character is a hexadecimal digit. -/
def isHexDigit (c : Char) : Bool :=
  c.isDigit || ('a' ≤ c && c ≤ 'f') || ('A' ≤ c && c ≤ 'F')

/-- The value of a hexadecimal digit. -/
def hexValue (c : Char) : Nat :=
  if c.isDigit then c.toNat - '0'.toNat else c.toLower.toNat - 'a'.toNat + 10

/-- What is wrong with an escape by a number of `width` digits, and how many characters of it have
been read until that shows. -/
def numberFault? (short : EscapeFault) (width : Nat) (s : List Char) : Option (EscapeFault × Nat) :=
  let digits := (s.take width).takeWhile isHexDigit
  if digits.length < width then some (short, digits.length)
  else if 0x10ffff < digits.foldl (fun n c => 16 * n + hexValue c) 0 then
    some (.outOfRange, width)
  else none

/-- What is wrong with an escape by a name that has to follow, and how many characters of it have
been read until that shows. The names themselves are not looked up. -/
def nameFault? (s : List Char) : Option (EscapeFault × Nat) :=
  match s with
  | '{' :: rest =>
    let name := rest.takeWhile (· != '}')
    if name.length = rest.length || name = [] then some (.unnamed, name.length + 1) else none
  | _ => some (.unnamed, 0)

/-- The first fault in an escape of a text that stands at a position, with the first and the last
place that it concerns. -/
def escapeFault? (position : Nat) : List Char → Option (EscapeFault × Nat × Nat)
  | [] => none
  | '\\' :: c :: rest =>
    let fault := match c with
      | 'x' => numberFault? .shortByte 2 rest
      | 'u' => numberFault? .shortCode 4 rest
      | 'U' => numberFault? .longCode 8 rest
      | 'N' => nameFault? rest
      | _ => none
    match fault with
    | some (fault, read) => some (fault, position, position + 1 + read)
    | none => escapeFault? (position + 2) rest
  | _ :: rest => escapeFault? (position + 1) rest

/-- The position of the first escape of a byte that lacks a digit. -/
def byteFault? (position : Nat) : List Char → Option Nat
  | [] => none
  | '\\' :: c :: rest =>
    if c = 'x' && (numberFault? .shortByte 2 rest).isSome then some position
    else byteFault? (position + 2) rest
  | _ :: rest => byteFault? (position + 1) rest

/-- Checks the escapes of a text. -/
def checkEscapes (raw : Bool) (body : List Char) : Except Misreading Unit :=
  if raw then .ok ()
  else
    match escapeFault? 0 (spelled body) with
    | none => .ok ()
    | some (fault, first, last) => .error (.badEscape fault first last)

/-- Checks a text without expressions. -/
def check (q : Quotation) : Except Misreading Unit :=
  if q.bytes then
    if q.body.any isForeign then .error .foreignByte
    else
      match if q.raw then none else byteFault? 0 q.body with
      | none => .ok ()
      | some position => .error (.badByteEscape position)
  else checkEscapes q.raw q.body

end Quotation

end FilterQuery.Literal
