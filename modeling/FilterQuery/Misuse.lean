/-
Misuse: requests that have no answer.

Unlike a problem with a query string, which is the client's and is reported, misuse is a mistake of
the caller: asking for the shared kind of no values, joining no predicates, giving a comparison
nothing to compare with. Reading a query string never commits any of them.
-/
import FilterQuery.Operator
import FilterQuery.Text.Quoted
import FilterQuery.Number.Numeral

set_option autoImplicit false

namespace FilterQuery

/-- A request that has no answer. -/
inductive Misuse where
  /-- The shared kind of no values was asked for. -/
  | noValues
  /-- No predicates were to be joined. -/
  | noPredicates
  /-- A comparison was given no value. -/
  | nothingToCompare
  /-- A null check was to be built as a comparison. -/
  | checkAsComparison (check : NullCheck)
  /-- A comparison was to be built as a null check. -/
  | comparisonAsCheck (op : Comparison)
  /-- A text that is no number was to be read as one. -/
  | notANumber (text : String)
  /-- An integer has more digits than can be held. -/
  | tooManyDigits (count : Nat)
deriving DecidableEq

namespace Misuse

/-- The wording of a misuse. -/
def message : Misuse → String
  | .noValues => "classify_values() requires at least one value"
  | .noPredicates => "combine() requires at least one predicate"
  | .nothingToCompare => "FieldPredicate requires at least one value"
  | .checkAsComparison check => "'" ++ check.symbol ++ "' takes no values; use UnaryPredicate"
  | .comparisonAsCheck op => "'" ++ op.symbol ++ "' is not a unary operator"
  | .notANumber text =>
    "could not convert string to float: " ++ String.ofList (Text.quoted text.toList)
  | .tooManyDigits count =>
    "Exceeds the limit (" ++ toString Numeral.integerDigitLimit ++
      " digits) for integer string conversion: value has " ++ toString count ++
      " digits; use sys.set_int_max_str_digits() to increase the limit"

end Misuse

end FilterQuery
