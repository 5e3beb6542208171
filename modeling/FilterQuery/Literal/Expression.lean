/-
Expressions, as far as literals need them.

A literal is an expression of constants, signs in front of numbers, sums with an imaginary number, and
tuples, lists, sets and tables of literals. The other forms are read too, since a text may be wrong
in a way that only shows in one of them, but nothing is kept of them but their form.
-/
import FilterQuery.Literal.Form
import FilterQuery.Literal.Numeral

set_option autoImplicit false

namespace FilterQuery.Literal

/-- A constant. -/
inductive Constant where
  | none | true | false | ellipsis
  | number (number : Numeral)
  | text
  | bytes
deriving DecidableEq, Repr

/-- An expression. -/
inductive Expression where
  | constant (constant : Constant)
  | name (letters : List Char)
  | tuple (items : List Expression)
  | list (items : List Expression)
  | set (items : List Expression)
  /-- Keys with their values; a table that is unpacked into this one has no key. -/
  | table (entries : List (Option Expression × Expression))
  /-- A number with a plus or a minus in front. -/
  | signed (operand : Expression)
  /-- A sum or a difference. -/
  | sum (left right : Expression)
  /-- A call, with whether it gives no arguments. -/
  | call (function : Expression) (bare : Bool)
  /-- A comparison, by what is compared first and whether that is looked for in something. -/
  | comparison (left : Expression) (membership : Bool)
  | starred (operand : Expression)
  | other (form : Form)
deriving Repr

namespace Expression

/-- The form of an expression. -/
def form : Expression → Form
  | .constant .none => .none
  | .constant .true => .true
  | .constant .false => .false
  | .constant .ellipsis => .ellipsis
  | .constant _ => .literal
  | .name _ => .name
  | .tuple _ => .tuple
  | .list _ => .list
  | .set _ => .set
  | .table _ => .table
  | .signed _ | .sum .. => .operation
  | .call .. => .call
  | .comparison .. => .comparison
  | .starred _ => .starred
  | .other form => form

mutual

/-- The first part of an expression that nothing can be assigned to when a loop runs over it. A loop
over `a in b` assigns to `a`. -/
def wrongTarget? : Expression → Option Expression
  | .tuple items | .list items => wrongTargetIn? items
  | .starred operand => operand.wrongTarget?
  | .comparison left membership => if membership then left.wrongTarget? else none
  | .name _ | .other .attribute | .other .subscript => none
  | e => some e

def wrongTargetIn? : List Expression → Option Expression
  | [] => none
  | e :: rest => e.wrongTarget?.or (wrongTargetIn? rest)

end

end Expression

end FilterQuery.Literal
