/-
Dates and times of the calendar, as texts.

A filter value is a date when its text is `YYYY-MM-DD`, alone or followed by `T` or a blank and a
time of day `HH:MM`, `HH:MM:SS` or `HH:MM:SS.f` with one to six digits of fraction, and that time
may be followed by its distance from universal time, `Z` or a signed `HH:MM` or `HHMM`. The shape
is not enough: the day has to exist in the Gregorian calendar, the time on the clock, and the
distance has to be less than a day. Only digits of ASCII count here.

A date keeps its text, so nothing but the verdict is computed. Each reader takes its part off the
front of the text and gives the rest.
-/
import FilterQuery.Text.Digit

set_option autoImplicit false

namespace FilterQuery.Calendar

open FilterQuery.Text

/-! ## The calendar -/

def isLeapYear (year : Nat) : Bool :=
  year % 4 == 0 && (year % 100 != 0 || year % 400 == 0)

/-- The number of days of a month, zero when there is no such month. -/
def daysInMonth (year month : Nat) : Nat :=
  if month = 2 then (if isLeapYear year then 29 else 28)
  else if [4, 6, 9, 11].contains month then 30
  else if 1 ≤ month && month ≤ 12 then 31
  else 0

/-- Whether a day exists; the first year is year 1. -/
def isDay (year month day : Nat) : Bool :=
  1 ≤ year && 1 ≤ day && day ≤ daysInMonth year month

def isClockTime (hour minute second : Nat) : Bool :=
  hour < 24 && minute < 60 && second < 60

/-- Whether a distance from universal time is less than a day. The minutes need not be less than
sixty. -/
def isOffset (hours minutes : Nat) : Bool :=
  hours * 60 + minutes < 24 * 60

/-! ## Reading from the front of a text -/

/-- A given character. -/
def takeChar (c : Char) : List Char → Option (List Char)
  | [] => none
  | d :: rest => if d = c then some rest else none

/-- A number of exactly `width` digits. -/
def takeNumber (width : Nat) (s : List Char) : Option (Nat × List Char) :=
  let digits := s.take width
  if digits.length = width && digits.all isAsciiDigit then
    some (ofDigits (digits.map asciiDigitValue), s.drop width)
  else none

/-- A day that exists. -/
def takeDay (s : List Char) : Option (List Char) := do
  let (year, s) ← takeNumber 4 s
  let s ← takeChar '-' s
  let (month, s) ← takeNumber 2 s
  let s ← takeChar '-' s
  let (day, s) ← takeNumber 2 s
  if isDay year month day then some s else none

/-- A point with one to six digits, or nothing. -/
def takeFraction : List Char → Option (List Char)
  | '.' :: rest =>
    let digits := rest.takeWhile isAsciiDigit
    if 1 ≤ digits.length && digits.length ≤ 6 then some (rest.drop digits.length) else none
  | s => some s

/-- The seconds of a time of day with their fraction, or nothing. -/
def takeSeconds : List Char → Option (Nat × List Char)
  | ':' :: rest => do
    let (second, s) ← takeNumber 2 rest
    let s ← takeFraction s
    some (second, s)
  | s => some (0, s)

/-- A time that exists on the clock. -/
def takeTime (s : List Char) : Option (List Char) := do
  let (hour, s) ← takeNumber 2 s
  let s ← takeChar ':' s
  let (minute, s) ← takeNumber 2 s
  let (second, s) ← takeSeconds s
  if isClockTime hour minute second then some s else none

/-- The hours and minutes of a distance from universal time. -/
def takeOffset (s : List Char) : Option (List Char) := do
  let (hours, s) ← takeNumber 2 s
  let (minutes, s) ← takeNumber 2 (if s.head? = some ':' then s.tail else s)
  if isOffset hours minutes then some s else none

/-- Whether a text is a distance from universal time, or empty. -/
def isZone : List Char → Bool
  | [] => true
  | ['Z'] => true
  | c :: rest => (c = '+' || c = '-') && takeOffset rest == some []

/-- Whether a text is a time of day with or without its zone. -/
def isTime (s : List Char) : Bool :=
  match takeTime s with
  | some rest => isZone rest
  | none => false

/-- Whether a text is a date. -/
def isDate (s : List Char) : Bool :=
  match takeDay s with
  | some [] => true
  | some (c :: rest) => (c = 'T' || c = ' ') && isTime rest
  | none => false

end FilterQuery.Calendar
