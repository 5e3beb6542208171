/-
The operators of filters.

There are two vocabularies. A query string names nine comparisons by short tokens (`gt`, `nin`), in
any case and with blanks around them. A predicate names relations by symbols (`>`, `not in`), and
has two more that take no value: the null checks. The tenth operator of the first vocabulary, the
check for null, has a name for reports only; no token is read as it.
-/
import FilterQuery.Text.Blank
import FilterQuery.Text.LowerCase

set_option autoImplicit false

namespace FilterQuery

/-! ## Comparisons -/

/-- A comparison of a field with one value, or with a list of values. -/
inductive Comparison where
  | equal | notEqual | greater | atLeast | less | atMost
  /-- The field holds the value somewhere in its text, whatever the case. -/
  | like
  | oneOf | noneOf
deriving DecidableEq, Repr

namespace Comparison

/-- All comparisons, in the order in which reports list them. -/
def all : List Comparison :=
  [.equal, .notEqual, .greater, .atLeast, .less, .atMost, .like, .oneOf, .noneOf]

/-- The name of a comparison in query strings. -/
def token : Comparison → String
  | .equal => "eq"
  | .notEqual => "ne"
  | .greater => "gt"
  | .atLeast => "gte"
  | .less => "lt"
  | .atMost => "lte"
  | .like => "ilike"
  | .oneOf => "in"
  | .noneOf => "nin"

/-- The name of a comparison in predicates. -/
def symbol : Comparison → String
  | .equal => "="
  | .notEqual => "<>"
  | .greater => ">"
  | .atLeast => ">="
  | .less => "<"
  | .atMost => "<="
  | .like => "ilike"
  | .oneOf => "in"
  | .noneOf => "not in"

/-- The comparisons that take a list of values. -/
def isSet : Comparison → Bool
  | .oneOf | .noneOf => true
  | _ => false

/-- The comparisons that need an order on the values. -/
def isOrdering : Comparison → Bool
  | .greater | .atLeast | .less | .atMost => true
  | _ => false

/-- The comparison that a token names, in any case and with blanks around it. -/
def ofToken? (token : String) : Option Comparison :=
  let name := Text.lower (Text.trim token.toList)
  all.find? fun comparison => comparison.token.toList = name

@[simp] theorem ofToken?_token (op : Comparison) : ofToken? op.token = some op := by
  cases op <;> decide +kernel

end Comparison

/-! ## Relations of predicates -/

/-- A check whether a field is null. -/
inductive NullCheck where
  | isNull | isNotNull
deriving DecidableEq, Repr

namespace NullCheck

/-- The name of a null check in predicates. -/
def symbol : NullCheck → String
  | .isNull => "is null"
  | .isNotNull => "is not null"

end NullCheck

/-- What a predicate says of its field. -/
inductive Relation where
  | comparison (op : Comparison)
  | nullCheck (check : NullCheck)
deriving DecidableEq, Repr

namespace Relation

def all : List Relation :=
  Comparison.all.map .comparison ++ [.nullCheck .isNull, .nullCheck .isNotNull]

def symbol : Relation → String
  | .comparison op => op.symbol
  | .nullCheck check => check.symbol

/-- Whether the relation takes no value. -/
def isUnary : Relation → Bool
  | .comparison _ => false
  | .nullCheck _ => true

/-- Whether the relation takes a list of values. -/
def isSet : Relation → Bool
  | .comparison op => op.isSet
  | .nullCheck _ => false

/-- The relation with a given symbol. -/
def ofSymbol? (symbol : String) : Option Relation :=
  all.find? (·.symbol = symbol)

@[simp] theorem ofSymbol?_symbol (relation : Relation) :
    ofSymbol? relation.symbol = some relation := by
  rcases relation with op | check
  · cases op <;> rfl
  · cases check <;> rfl

end Relation

/-! ## Operators of query strings -/

/-- An operator in force for a filter: a comparison, or the check for null that a lone null value
means when no operator is given. -/
inductive Operator where
  | comparison (op : Comparison)
  | isNull
deriving DecidableEq, Repr

namespace Operator

def all : List Operator := Comparison.all.map .comparison ++ [.isNull]

/-- The name of an operator in reports. -/
def text : Operator → String
  | .comparison op => op.token
  | .isNull => "$isnull"

/-- The operator with a given name in reports. -/
def ofText? (text : String) : Option Operator :=
  all.find? (·.text = text)

@[simp] theorem ofText?_text (op : Operator) : ofText? op.text = some op := by
  rcases op with op | _
  · cases op <;> rfl
  · rfl

def isSet : Operator → Bool
  | .comparison op => op.isSet
  | .isNull => false

/-- The operators that null has no part in. -/
def excludesNull : Operator → Bool
  | .comparison op => op.isOrdering || op == .like
  | .isNull => false

end Operator

end FilterQuery
