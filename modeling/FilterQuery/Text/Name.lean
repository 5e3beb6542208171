/-
Names and words.

A name begins with a letter of some script or a low line, and letters, digits, marks and low lines
follow. The characters of a word are the alphanumeric ones and the low line. Beyond ASCII both are
tables; the two notions differ there, since a mark may stand in a name and belongs to no word, and a
numeral such as a fraction makes a word and no name.
-/
import FilterQuery.Text.Name.Table

set_option autoImplicit false

namespace FilterQuery.Text

/-- Whether a character may begin a name. -/
def beginsName (c : Char) : Bool :=
  c.isAlpha || c = '_' || nameBeginRanges.contains c

/-- Whether a character may stand in a name after its first one. -/
def continuesName (c : Char) : Bool :=
  beginsName c || c.isDigit || nameRestRanges.contains c

/-- Four characters begin a name and yet are no part of a word. -/
def wordlessLetters : List Char :=
  ['\u1885', '\u1886', '\u2118', '\u212e']

/-- Whether a character is part of a word. -/
def isWordCharacter (c : Char) : Bool :=
  c.isDigit || (beginsName c && !wordlessLetters.contains c) || numeralRanges.contains c

/-- What begins a name may also stand inside one. -/
theorem continuesName_of_beginsName {c : Char} (h : beginsName c = true) :
    continuesName c = true := by
  simp [continuesName, h]

/-- Whether a character is beyond ASCII. -/
def isForeign (c : Char) : Bool := 0x80 ≤ c.toNat

/-- Whether a character passes for one of a name at first sight: beyond ASCII any does. -/
def resemblesName (c : Char) : Bool :=
  c.isAlphanum || c = '_' || isForeign c

/-- The first character of a text that keeps it from being a name. -/
def nameFault? : List Char → Option Char
  | [] => none
  | c :: rest => if beginsName c then rest.find? (!continuesName ·) else some c

end FilterQuery.Text
