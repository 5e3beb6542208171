/-
Problems with a query string, as they are reported to the client.

A `Refusal` is the cause: it says what was wrong with a value, an operator or their combination, and
gives the wording. A `Problem` is the report: the wording together with the query string, the key and
the value concerned, as far as they are known. Problems are data that is handed on and compared, so
two problems are equal when their five columns are, with the equality of data for the value.
-/
import FilterQuery.Datum
import FilterQuery.Kind
import FilterQuery.Params

set_option autoImplicit false

namespace FilterQuery

/-! ## Kinds of problems -/

/-- What a problem is about. -/
inductive ProblemKind where
  | mixedKinds
  | listWithScalarOperator
  | nullWithOperator
  | numberWithSubstring
  | dateWithSubstring
  | unknownOperator
  | notAList
deriving DecidableEq, Repr

namespace ProblemKind

def all : List ProblemKind :=
  [.mixedKinds, .listWithScalarOperator, .nullWithOperator, .numberWithSubstring,
    .dateWithSubstring, .unknownOperator, .notAList]

/-- The public name of a kind of problem. -/
def name : ProblemKind → String
  | .mixedKinds => "mixed_value_types"
  | .listWithScalarOperator => "array_value_with_scalar_operator"
  | .nullWithOperator => "null_value_with_incompatible_operator"
  | .numberWithSubstring => "number_value_with_substring_operator"
  | .dateWithSubstring => "date_value_with_substring_operator"
  | .unknownOperator => "unknown_operator"
  | .notAList => "not_an_array"

def ofName? (name : String) : Option ProblemKind :=
  all.find? (·.name = name)

@[simp] theorem ofName?_name (kind : ProblemKind) : ofName? kind.name = some kind := by
  cases kind <;> rfl

end ProblemKind

/-! ## Causes -/

/-- Why a filter or an include list is refused. -/
inductive Refusal where
  /-- The values of one filter are of different kinds. -/
  | mixedKinds
  /-- The text given as operator names none. -/
  | unknownOperator (token : String)
  /-- A list of values is given to an operator that takes one. -/
  | listWithScalarOperator (op : Operator)
  /-- Null is given to an operator that it has no part in. -/
  | nullWithOperator (op : Operator)
  | numberWithSubstring (op : Operator)
  | dateWithSubstring (op : Operator)
  /-- The relations to include are not a list. -/
  | notAList
deriving DecidableEq, Repr

namespace Refusal

def kind : Refusal → ProblemKind
  | .mixedKinds => .mixedKinds
  | .unknownOperator _ => .unknownOperator
  | .listWithScalarOperator _ => .listWithScalarOperator
  | .nullWithOperator _ => .nullWithOperator
  | .numberWithSubstring _ => .numberWithSubstring
  | .dateWithSubstring _ => .dateWithSubstring
  | .notAList => .notAList

/-- The sentence about an operator and values that do not suit it. -/
def unsuited (op : Operator) (values : String) : String :=
  "\"" ++ op.text ++ "\" operator should not be used with " ++ values

/-- The wording of a refusal. -/
def message : Refusal → String
  | .mixedKinds => "arrays should not mix multiple value types"
  | .unknownOperator token =>
    "\"" ++ token ++ "\" is not a supported operator (supported: " ++
      String.intercalate ", " (Comparison.all.map (·.token)) ++ ")"
  | .listWithScalarOperator op => unsuited op "array value"
  | .nullWithOperator op => unsuited op "null value"
  | .numberWithSubstring op => unsuited op "number values"
  | .dateWithSubstring op => unsuited op "date values"
  | .notAList => "Include field should be an array"

end Refusal

/-! ## Reports -/

/-- The value of a parameter as a datum. -/
def ParamValue.toDatum : ParamValue → Datum
  | .one text => .text text
  | .many texts => .texts texts

/-- A problem as reported. -/
structure Problem where
  kind : Option ProblemKind := none
  message : String
  query : Option String := none
  key : Option String := none
  value : Datum := .null
deriving DecidableEq

namespace Problem

/-- The report of a refusal. -/
def ofRefusal (refusal : Refusal) (query key : Option String) (value : Datum) : Problem where
  kind := refusal.kind
  message := refusal.message
  query := query
  key := key
  value := value

/-- Equality of problems, column by column. -/
def same (a b : Problem) : Bool :=
  a.kind = b.kind && a.message = b.message && a.query = b.query && a.key = b.key &&
    a.value.same b.value

/-- The columns by which problems are filed; equal problems are filed alike. -/
def filedUnder (p : Problem) : String × Option String × Option String :=
  (p.message, p.query, p.key)

/-- A problem in one line. -/
def summary (p : Problem) : String :=
  match p.key with
  | none | some "" => p.message
  | some key => key ++ ": " ++ p.message

/-- A text that may be absent, as a datum. -/
def column (text : Option String) : Datum :=
  text.elim .null .text

/-- A problem as it is displayed to developers. -/
def display (p : Problem) : String :=
  "QuerystringParsingError(" ++ String.ofList (Text.quoted p.message.toList) ++ ", param_key=" ++
    String.ofList (column p.key).display ++ ", param_value=" ++ String.ofList p.value.display ++ ")"

/-- A problem as a record. -/
def toDatum (p : Problem) : Datum :=
  .record [
    ("type", column (p.kind.map (·.name))),
    ("message", .text p.message),
    ("querystring", column p.query),
    ("paramKey", column p.key),
    ("paramValue", p.value)]

end Problem

end FilterQuery
