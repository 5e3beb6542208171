/-
Predicates as data, the form in which they are handed on.

A condition on a field is a record with one entry: its key is the symbol of the relation, and its
value names the field, marked so that it can be told from a text, followed by the values compared
with. A relation that takes a list has the list as its one operand. AND has the two predicates that
it joins.
-/
import FilterQuery.Datum.Json
import FilterQuery.Predicate

set_option autoImplicit false

namespace FilterQuery.Predicate

/-- The name of a field as an operand. -/
def reference (settings : Settings) (field : String) : Datum :=
  .text (settings.fieldMarker ++ field)

/-- A predicate as data. -/
def toDatum (settings : Settings) : Predicate → Datum
  | .nullCheck check field => .record [(check.symbol, reference settings field)]
  | .comparison op field first rest =>
    let values := first :: rest
    .record [(op.symbol,
      .list (reference settings field :: if op.isSet then [.list values] else values))]
  | .both left right => .record [("AND", .list [left.toDatum settings, right.toDatum settings])]

/-- A predicate as JSON text of ASCII characters, with the field marker of the standard settings. -/
def text (p : Predicate) : String :=
  (p.toDatum .standard).toJson .ascii

end FilterQuery.Predicate
