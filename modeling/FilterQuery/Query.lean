/-
The pairs of a query string.

A query string is a list of `key=value` parameters between ampersands, with percent encoding inside
them. Question marks in front are not part of it, an empty parameter is none at all, and a parameter
without `=` has an empty value. No query string is refused.
-/
import FilterQuery.Percent
import FilterQuery.Text.Pieces

set_option autoImplicit false

namespace FilterQuery.Query

open FilterQuery.Text

/-- The parameters of a query string as they are spelled, empty ones left out. -/
def parameters (query : List Char) : List (List Char) :=
  (pieces '&' (query.dropWhile (· == '?'))).filter (· ≠ [])

/-- The key and the value of a parameter. -/
def pair (parameter : List Char) : String × String :=
  let (key, value) := cutFirst '=' parameter
  (String.ofList (Percent.decode key), String.ofList (Percent.decode value))

/-- The keys and values of a query string, in order. -/
def pairs (query : String) : List (String × String) :=
  (parameters query.toList).map pair

end FilterQuery.Query
