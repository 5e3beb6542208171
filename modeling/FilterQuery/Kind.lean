/-
The kinds of values, and reading values of a kind.

Every value of a query string is a text; its kind is what it looks like after trimming: the word for
null in any case, a number that can be held, a date, or else a string. The values of one filter are
looked at together and must be of one kind.

Values of a kind are then read. Null has one value; numbers are read exactly if they are integers
and to the nearest binary number otherwise; dates and strings keep their text, blanks included.
Reading a value of a kind that it was not found to have may fail, and then it says why.
-/
import FilterQuery.Calendar
import FilterQuery.Misuse
import FilterQuery.Number.Lenient
import FilterQuery.Scalar
import FilterQuery.Settings

set_option autoImplicit false

namespace FilterQuery

open FilterQuery.Text

/-- What the values of a filter look like. -/
inductive Kind where
  | null | number | date | string
deriving DecidableEq, Repr

namespace Kind

def all : List Kind := [.number, .date, .null, .string]

/-- The name of a kind. -/
def name : Kind → String
  | .number => "number"
  | .date => "date"
  | .null => "null"
  | .string => "string"

def ofName? (name : String) : Option Kind :=
  all.find? (·.name = name)

@[simp] theorem ofName?_name (kind : Kind) : ofName? kind.name = some kind := by
  cases kind <;> rfl

/-! ## Finding the kind -/

/-- Whether a value is the word for null. -/
def isNullWord (settings : Settings) (value : String) : Bool :=
  lower (trim value.toList) = lower settings.nullWord.toList

/-- Whether a trimmed text is a number that can be held. -/
def isNumber (text : List Char) : Bool :=
  match Numeral.ofChars? text with
  | some n => n.isHeld
  | none => false

/-- The kind of one value. -/
def ofValue (settings : Settings) (value : String) : Kind :=
  if isNullWord settings value then .null
  else if isNumber (trim value.toList) then .number
  else if Calendar.isDate (trim value.toList) then .date
  else .string

/-- The kind that all values share, `none` if they differ. -/
def shared? (settings : Settings) : List String → Except Misuse (Option Kind)
  | [] => .error .noValues
  | value :: rest =>
    let kind := ofValue settings value
    .ok (if rest.all fun other => ofValue settings other = kind then some kind else none)

/-! ## Reading values -/

/-- The number that a value spells. -/
def readNumber (value : String) : Except Misuse Scalar :=
  let text := trim value.toList
  match Numeral.ofChars? text with
  | some n =>
    if !n.isInteger then .ok (.float n.toDecimal.toBinary64)
    else if n.whole.length ≤ Numeral.integerDigitLimit then .ok (.int n.toInt)
    else .error (.tooManyDigits n.whole.length)
  | none =>
    match Lenient.number? text with
    | some x => .ok (.float x)
    | none => .error (.notANumber (String.ofList text))

/-- The values of a kind, from their texts. -/
def read (kind : Kind) (values : List String) : Except Misuse (List Scalar) :=
  match kind with
  | .null => .ok (values.map fun _ => .null)
  | .number => values.mapM readNumber
  | .date | .string => .ok (values.map .text)

end Kind

end FilterQuery
