/-
Literals.

An expression is a literal if it stands for a value that can be told without looking anything up.
What the value is does not matter here, only that there is one: the items of a set and the keys of a
table must be values that do not change, and an integer is too large to be added to an imaginary
number if it is beyond the largest real one. The parts of an expression are looked at from the left
to the right, and the first that is wrong decides.
-/
import FilterQuery.Literal.Reading

set_option autoImplicit false

namespace FilterQuery.Literal

/-- Why an expression is no literal. -/
inductive NoValue where
  /-- It is of a form that literals do not have. -/
  | malformed
  /-- A table is unpacked into another one. -/
  | unpacked
  /-- An item of a set or a key of a table may change. -/
  | changing (kind : String)
  /-- An integer is too large to be made a real number. -/
  | tooLarge
deriving DecidableEq, Repr

/-- The wording of a cause. -/
def NoValue.message : NoValue → String
  | .malformed => "malformed node or string"
  | .unpacked => "malformed node or string: None"
  | .changing kind => "unhashable type: '" ++ kind ++ "'"
  | .tooLarge => "int too large to convert to float"

/-- A value, as far as it matters to where it may stand. -/
inductive Value where
  | plain
  /-- Items that do not change if none of them does. -/
  | tuple (items : List Value)
  /-- A value that may change, by the name of its kind. -/
  | changing (kind : String)
deriving Repr

mutual

/-- The kind of the first part of a value that may change. -/
def Value.changing? : Value → Option String
  | .plain => none
  | .changing kind => some kind
  | .tuple items => changingIn? items

def changingIn? : List Value → Option String
  | [] => none
  | v :: rest => v.changing?.or (changingIn? rest)

end

/-- Lets a value stand where it must not change. -/
def Value.keep (v : Value) : Except NoValue Unit :=
  match v.changing? with
  | none => .ok ()
  | some kind => .error (.changing kind)

namespace Expression

/-- The number that an expression is, perhaps with one sign in front. -/
def signedNumber? : Expression → Option Numeral
  | .constant (.number n) | .signed (.constant (.number n)) => some n
  | _ => none

/-- The first integer that is nearer to the next power of two than to the largest real number. -/
def firstTooLarge : Nat := Nat.pow 2 1024 - Nat.pow 2 970

/-- Adds a number to a real or an integer one. Only imaginary numbers can be added. -/
def checkSum (left right : Expression) : Except NoValue Value :=
  match left.signedNumber?, right with
  | some (.integer n), .constant (.number .imaginary) =>
    if n < firstTooLarge then .ok .plain else .error .tooLarge
  | some .real, .constant (.number .imaginary) => .ok .plain
  | _, _ => .error .malformed

mutual

/-- The value that an expression stands for. -/
def value : Expression → Except NoValue Value
  | .constant _ => .ok .plain
  | .tuple items => do return .tuple (← valuesOf items)
  | .list items => do
    let _ ← valuesOf items
    return .changing "list"
  | .set items => do
    keepValues items
    return .changing "set"
  | .call (.name letters) true =>
    if letters = "set".toList then .ok (.changing "set") else .error .malformed
  | .table entries => do
    keepEntries entries
    return .changing "dict"
  | .sum left right => checkSum left right
  | .signed (.constant (.number _)) => .ok .plain
  | _ => .error .malformed

/-- The values of the items of a tuple or a list. -/
def valuesOf : List Expression → Except NoValue (List Value)
  | [] => .ok []
  | e :: rest => do
    let v ← e.value
    return v :: (← valuesOf rest)

/-- Checks the items of a set. -/
def keepValues : List Expression → Except NoValue Unit
  | [] => .ok ()
  | e :: rest => do
    (← e.value).keep
    keepValues rest

/-- Checks the keys and the values of a table. -/
def keepEntries : List (Option Expression × Expression) → Except NoValue Unit
  | [] => .ok ()
  | (none, _) :: _ => .error .unpacked
  | (some key, e) :: rest => do
    let k ← key.value
    let _ ← e.value
    k.keep
    keepEntries rest

end

end Expression

end FilterQuery.Literal
