/-
The parameters of a query string, one entry for each key.

A value that holds the separator is a list, and so are the values of a key that occurs more than
once: they are put one after the other, in the place where the key occurred first. A key that occurs
once with a value free of separators has that value, as a single text.
-/
import FilterQuery.Query
import FilterQuery.Settings

set_option autoImplicit false

namespace FilterQuery

open FilterQuery.Text

/-! ## Values -/

/-- The value of a parameter: one text, or a list of texts. -/
inductive ParamValue where
  | one (text : String)
  | many (texts : List String)
deriving DecidableEq, Repr

namespace ParamValue

/-- The texts of a value, in order. -/
def texts : ParamValue → List String
  | .one text => [text]
  | .many texts => texts

def isList : ParamValue → Bool
  | .one _ => false
  | .many _ => true

/-- A value as it is spelled: a list when it holds the separator. -/
def ofText (separator : Char) (text : String) : ParamValue :=
  if separator ∈ text.toList then .many ((pieces separator text.toList).map String.ofList)
  else .one text

/-- The value of a key that occurs again. -/
def append (first second : ParamValue) : ParamValue :=
  .many (first.texts ++ second.texts)

end ParamValue

/-! ## Entries -/

/-- Keys with their values, in the order in which the keys first occur. -/
abbrev Params := List (String × ParamValue)

namespace Params

/-- Adds an occurrence of a key. -/
def add : Params → String → ParamValue → Params
  | [], key, value => [(key, value)]
  | (other, stored) :: rest, key, value =>
    if other = key then (other, stored.append value) :: rest
    else (other, stored) :: add rest key value

/-- The entries of a list of keys with their values as spelled. -/
def ofPairs (separator : Char) (pairs : List (String × String)) : Params :=
  pairs.foldl (fun params (key, text) => params.add key (.ofText separator text)) []

/-- The entries of a query string. -/
def ofQuery (settings : Settings) (query : String) : Params :=
  ofPairs settings.separator (Query.pairs query)

end Params

end FilterQuery
