/-
Relations to include in the answer.

The `include` parameter arrives as a datum that an earlier stage made. A list of relations becomes
one operation that selects them, an empty list none, and anything else is a problem. Problems of the
earlier stage are handed on untouched.
-/
import FilterQuery.Problem

set_option autoImplicit false

namespace FilterQuery

/-- The operation that selects relations. -/
structure Selection where
  relations : List Datum
deriving DecidableEq

namespace Selection

/-- The name of the operation. -/
def name : String := "select"

/-- The operation as data. -/
def toDatum (s : Selection) : Datum :=
  .record [("fx", .text name), ("parameters", .list s.relations)]

end Selection

/-- What an include list gives: operations, or problems. -/
structure Inclusion where
  selections : List Selection := []
  problems : List Problem := []
deriving DecidableEq

namespace Inclusion

/-- Whether there are no problems. -/
def ok (i : Inclusion) : Bool := i.problems.isEmpty

/-- The key of the parameter. -/
def key : String := "include"

/-- Reads the value of the parameter. -/
def ofDatum (value : Datum) (earlier : List Problem := []) : Inclusion :=
  if earlier.isEmpty then
    match value with
    | .list [] => {}
    | .list relations => { selections := [⟨relations⟩] }
    | other => { problems := [.ofRefusal .notAList none (some key) other] }
  else { problems := earlier }

/-- The outcome as data. -/
def toDatum (i : Inclusion) : Datum :=
  .record [
    ("results", .list (i.selections.map (·.toDatum))),
    ("errors", .list (i.problems.map (·.toDatum)))]

end Inclusion

end FilterQuery
