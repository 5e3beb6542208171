/-
Notes: what reading a query string records about its course.

Notes are for whoever wonders why a query string was read as it was. They come in the order in which
things happened: first the parameters that look like filters but name no field, then each filter
that was read, and last the filter at which reading stopped, if it did.
-/
import FilterQuery.Kind
import FilterQuery.Problem

set_option autoImplicit false

namespace FilterQuery

/-- One step in the course of reading. -/
inductive Note where
  /-- A key with the keyword but no field. -/
  | ignored (key : String)
  /-- A filter that was read. -/
  | read (key : String) (kind : Kind) (op : Operator) (relation : Relation)
  /-- The filter at which reading stopped. -/
  | stopped (key : String) (refusal : Refusal)
deriving DecidableEq, Repr

namespace Note

/-- The wording of a note. -/
def text : Note → String
  | .ignored key => "Ignoring filter parameter without a field: " ++ key
  | .read key kind op relation =>
    "Filter " ++ key ++ ": type=" ++ kind.name ++ " operator=" ++ op.text ++ " -> " ++
      relation.symbol
  | .stopped key refusal => "Stopping filter parsing at " ++ key ++ ": " ++ refusal.message

end Note

end FilterQuery
