/-
The forms of expressions.

What is wrong with an expression is often told by its form: a name can be assigned to, a comparison
cannot. The forms stand here apart from the expressions themselves, because the wording of a fault
needs no more than them.
-/

set_option autoImplicit false

namespace FilterQuery.Literal

/-- The form of an expression. -/
inductive Form where
  | name | literal | true | false | none | ellipsis | interpolated
  | tuple | list | set | table
  | listComprehension | setComprehension | tableComprehension | generator
  | attribute | subscript | call | starred
  | operation | comparison | conditional | lambda | naming | yielding | awaiting
deriving DecidableEq, Repr

/-- The wording of a form. -/
def Form.text : Form → String
  | .name => "name"
  | .literal => "literal"
  | .true => "True"
  | .false => "False"
  | .none => "None"
  | .ellipsis => "ellipsis"
  | .interpolated => "f-string expression"
  | .tuple => "tuple"
  | .list => "list"
  | .set => "set display"
  | .table => "dict literal"
  | .listComprehension => "list comprehension"
  | .setComprehension => "set comprehension"
  | .tableComprehension => "dict comprehension"
  | .generator => "generator expression"
  | .attribute => "attribute"
  | .subscript => "subscript"
  | .call => "function call"
  | .starred => "starred"
  | .operation => "expression"
  | .comparison => "comparison"
  | .conditional => "conditional expression"
  | .lambda => "lambda"
  | .naming => "named expression"
  | .yielding => "yield expression"
  | .awaiting => "await expression"

/-- The forms of numbers. -/
inductive NumberForm where
  | decimal | imaginary | hexadecimal | octal | binary
deriving DecidableEq, Repr

/-- The wording of a form of numbers. -/
def NumberForm.text : NumberForm → String
  | .decimal => "decimal"
  | .imaginary => "imaginary"
  | .hexadecimal => "hexadecimal"
  | .octal => "octal"
  | .binary => "binary"

end FilterQuery.Literal
