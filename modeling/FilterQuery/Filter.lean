/-
Filters: parameters such as `filter[age][gt]=10`, and the predicate that one filter means.

A parameter is a filter when its key begins with the keyword and the keyword is its whole first
segment; the second segment is the field and the third, if there is one, the operator. Keys without
a field are noted and left out, and so are empty lists.

A filter is read in four steps: the kind its values share; the operator in force; whether that
operator suits the kind and the number of values; the relation that the operator means for that
kind. Each step has its own function, and the first refusal ends the reading.
-/
import FilterQuery.BracketKey
import FilterQuery.Note
import FilterQuery.Predicate

set_option autoImplicit false

namespace FilterQuery

/-- A parameter that is a filter. -/
structure Filter where
  keyword : String
  field : String
  operator : Option String
  value : ParamValue
deriving DecidableEq, Repr

namespace Filter

/-! ## Finding the filters -/

/-- The segments of a key that belongs to the filters. -/
def segments? (settings : Settings) (key : String) : Option (List String) :=
  if settings.keyword.toList.isPrefixOf key.toList then
    match BracketKey.segments key with
    | first :: rest => if first = settings.keyword then some rest else none
    | [] => none
  else none

/-- The filter of a parameter. -/
def ofParam? (settings : Settings) : String × ParamValue → Option Filter
  | (key, value) =>
    match segments? settings key with
    | some (field :: rest) =>
      if value.texts = [] then none else some ⟨settings.keyword, field, rest.head?, value⟩
    | _ => none

/-- The filters among some parameters, in order. -/
def ofParams (settings : Settings) (params : Params) : List Filter :=
  params.filterMap (ofParam? settings)

/-- A note on each parameter with the keyword but no field, in order. -/
def ignored (settings : Settings) (params : Params) : List Note :=
  params.filterMap fun (key, _) =>
    if segments? settings key = some [] then some (.ignored key) else none

/-- The key of a filter, as reports name it. -/
def key (f : Filter) : String :=
  BracketKey.write f.keyword (f.field :: f.operator.toList)

/-! ## The operator in force -/

/-- The operator given, or the one that the values suggest: membership for a list, a null check for
null, a substring comparison for a string, and equality otherwise. -/
def resolve (explicit : Option String) (isList : Bool) (kind : Kind) : Except Refusal Operator :=
  match explicit with
  | some token =>
    match Comparison.ofToken? token with
    | some op => .ok (.comparison op)
    | none => .error (.unknownOperator token)
  | none =>
    if isList then .ok (.comparison .oneOf)
    else match kind with
      | .null => .ok .isNull
      | .number | .date => .ok (.comparison .equal)
      | .string => .ok (.comparison .like)

/-- Why an operator does not suit the values, if it does not. -/
def mismatch? (op : Operator) (isList : Bool) (kind : Kind) : Option Refusal :=
  if isList && !op.isSet then some (.listWithScalarOperator op)
  else match kind with
    | .null => if op.excludesNull then some (.nullWithOperator op) else none
    | .number => if op = .comparison .like then some (.numberWithSubstring op) else none
    | .date => if op = .comparison .like then some (.dateWithSubstring op) else none
    | .string => none

/-- The relation that an operator means for values of a kind: to equal null is to be null. -/
def relation (op : Operator) (kind : Kind) : Relation :=
  match op, kind with
  | .isNull, .null | .comparison .equal, .null => .nullCheck .isNull
  | .comparison .notEqual, .null => .nullCheck .isNotNull
  | .isNull, _ => .comparison .equal
  | .comparison op, _ => .comparison op

/-! ## Reading one filter -/

/-- Why a filter was not read: the client's mistake, or the caller's. -/
inductive Failure where
  | refused (refusal : Refusal)
  | misused (misuse : Misuse)
deriving DecidableEq

/-- The predicate that a filter means, and the note about how it was found. -/
def read (settings : Settings) (f : Filter) : Except Failure (Predicate × Note) := do
  let texts := f.value.texts
  let isList := f.value.isList
  let kind ← (Kind.shared? settings texts).mapError .misused
  let some kind := kind | throw (.refused .mixedKinds)
  let values ← (kind.read texts).mapError .misused
  let op ← (resolve f.operator isList kind).mapError .refused
  if let some refusal := mismatch? op isList kind then throw (.refused refusal)
  let relation := relation op kind
  let predicate ← (Predicate.build settings f.field relation (values.map .scalar)).mapError .misused
  return (predicate, .read f.key kind op relation)

end Filter

end FilterQuery
