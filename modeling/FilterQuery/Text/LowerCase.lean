/-
Lower-casing a text.

Operators and the word for null are recognised whatever their case, in any script. Three rules
make the lower case of a text:

* most letters have a lower case of one character, given by the table of runs;
* U+0130, the capital i with a dot above, becomes an `i` and a combining dot;
* the capital sigma becomes `ς` at the end of a word and `σ` elsewhere. It ends a word when the
  nearest character before it that is not looked through carries case and the nearest one after it
  does not.

The third rule is the only one that looks at neighbours, so the text is walked once with the
characters already passed, nearest first.
-/
import FilterQuery.Text.LowerCase.Table

set_option autoImplicit false

namespace FilterQuery.Text

namespace LowerCase

/-! ## One character -/

/-- The lower case of a character, wherever it stands. -/
def ofChar (c : Char) : List Char :=
  if c.toNat < 0x80 then [c.toLower]
  else if c.toNat == 0x130 then ['i', '\u0307']
  else match runs.findSome? (·.find? c.toNat) with
    | some n => [Char.ofNat n]
    | none => [c]

/-! ## The sigma at the end of a word -/

/-- Whether the nearest character that is not looked through carries case. -/
def meetsCase (s : List Char) : Bool :=
  match s.dropWhile caseTransparent.contains with
  | [] => false
  | c :: _ => caseBearing.contains c

/-- The lower case of the capital sigma between the characters `before` it, nearest first, and
those `after` it. -/
def sigma (before after : List Char) : Char :=
  if meetsCase before && !meetsCase after then 'ς' else 'σ'

/-- The lower case of the characters that follow `before`. -/
def walk (before : List Char) : List Char → List Char
  | [] => []
  | c :: rest =>
    (if c = 'Σ' then [sigma before rest] else ofChar c) ++ walk (c :: before) rest

end LowerCase

/-- The lower case of a text. -/
def lower (s : List Char) : List Char :=
  LowerCase.walk [] s

end FilterQuery.Text
