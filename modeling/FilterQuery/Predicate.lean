/-
Predicates: what the records sought must satisfy.

A predicate checks one field for null, compares one field with values, or joins two predicates by
AND. A comparison always has a value to compare with: the first is part of its type, so a comparison
without values cannot be built. The values read from a query string are scalars; a caller may also
compare with lists and records.

Joining several predicates gives a chain that leans to the left: the first two are joined, the third
is joined to that, and so on.
-/
import FilterQuery.Datum
import FilterQuery.Misuse
import FilterQuery.Settings

set_option autoImplicit false

namespace FilterQuery

/-- A condition on records. -/
inductive Predicate where
  | nullCheck (check : NullCheck) (field : String)
  | comparison (op : Comparison) (field : String) (first : Datum) (rest : List Datum)
  | both (left right : Predicate)
deriving DecidableEq

namespace Predicate

/-! ## Shape -/

/-- The conditions on single fields, from left to right. -/
def leaves : Predicate → List Predicate
  | .both left right => left.leaves ++ right.leaves
  | leaf => [leaf]

/-- How deeply AND is nested. -/
def depth : Predicate → Nat
  | .both left right => 1 + max left.depth right.depth
  | _ => 0

/-! ## Equality -/

/-- Equality of predicates: the same shape, relations and fields, and values equal one by one. -/
def same : Predicate → Predicate → Bool
  | .nullCheck c f, .nullCheck d g => c = d && f = g
  | .comparison o f a as, .comparison p g b bs =>
    o = p && f = g && Datum.sameItems (a :: as) (b :: bs)
  | .both a b, .both c d => a.same c && b.same d
  | _, _ => false

/-! ## Building -/

/-- A null check, if the relation is one. -/
def ofNullCheck (relation : Relation) (field : String) : Except Misuse Predicate :=
  match relation with
  | .nullCheck check => .ok (.nullCheck check field)
  | .comparison op => .error (.comparisonAsCheck op)

/-- A comparison with the given values, if the relation is one and there are values. -/
def ofComparison (relation : Relation) (field : String) (values : List Datum) :
    Except Misuse Predicate :=
  match relation, values with
  | .nullCheck check, _ => .error (.checkAsComparison check)
  | .comparison _, [] => .error .nothingToCompare
  | .comparison op, first :: rest => .ok (.comparison op field first rest)

/-- A value between wildcards, as a pattern for the text to be found. -/
def pattern (settings : Settings) (value : Datum) : Datum :=
  .text (settings.wildcard ++ String.ofList value.plain ++ settings.wildcard)

/-- The predicate of a relation on a field. A null check has no use for values, and the values of a
substring comparison become patterns. -/
def build (settings : Settings) (field : String) (relation : Relation) (values : List Datum) :
    Except Misuse Predicate :=
  match relation with
  | .nullCheck _ => ofNullCheck relation field
  | .comparison .like => ofComparison relation field (values.map (pattern settings))
  | .comparison _ => ofComparison relation field values

/-- Joins a predicate with those that follow it. -/
def chain (first : Predicate) (others : List Predicate) : Predicate :=
  others.foldl .both first

/-- Joins predicates; there must be one. -/
def combine : List Predicate → Except Misuse Predicate
  | [] => .error .noPredicates
  | first :: others => .ok (chain first others)

end Predicate

end FilterQuery
