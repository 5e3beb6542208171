/-
What a predicate is written as.

A predicate is written as one key and one text for each of its conditions, from left to right. Those
are its `entries`. Percent encoding and joining them gives the query string, and the pairs of that
query string are the entries again, for every predicate whatever (`pairs_toQuery`): so all questions
about written predicates are questions about entries.

One piece of writing is undone here: a written key names the keyword, a field and perhaps an
operator, and is the key of such a filter (`ofParam?_key`).
-/
import FilterQuery.Filter
import FilterQuery.Predicate.Canonical
import FilterQuery.Proofs.QueryPairs
import FilterQuery.Proofs.Suits

set_option autoImplicit false

namespace FilterQuery

open FilterQuery.BracketKey

namespace Predicate

variable (settings : Settings)

/-! ## Entries -/

/-- The keys and texts of the parameters that a predicate is written as. -/
def entries : Predicate → List (String × String)
  | .nullCheck .isNull field => [(write settings.keyword [field], settings.nullWord)]
  | .nullCheck .isNotNull field =>
    [(write settings.keyword [field, Comparison.notEqual.token], settings.nullWord)]
  | .comparison op field first rest =>
    let values := (first :: rest).map fun value => (spellOperand settings op value).toList
    [(write settings.keyword [field, op.token],
      String.ofList (Text.glue settings.separator values))]
  | .both left right => left.entries ++ right.entries

/-- The keys that the conditions of a predicate are written under, from left to right. -/
def keys (p : Predicate) : List String := (p.entries settings).map Prod.fst

theorem parameter_eq_spelled (segments : List String) (value : List Char) :
    parameter settings segments value
      = String.ofList (Query.spelled (write settings.keyword segments) (String.ofList value)) := by
  rw [parameter, Query.spelled, String.toList_ofList]

/-- The parameters are the entries, percent encoded. -/
theorem parameters_eq_map_spelled (p : Predicate) :
    p.parameters settings
      = (p.entries settings).map fun e => String.ofList (Query.spelled e.1 e.2) := by
  induction p with
  | nullCheck check field =>
      cases check with
      | isNull => rw [parameters, parameter_eq_spelled, String.ofList_toList]; rfl
      | isNotNull => rw [parameters, parameter_eq_spelled, String.ofList_toList]; rfl
  | comparison op field first rest => rw [parameters, parameter_eq_spelled]; rfl
  | both left right ihleft ihright =>
      rw [parameters, ihleft, ihright, entries, List.map_append]

/-- **The pairs of a written predicate are its entries.** -/
theorem pairs_toQuery (p : Predicate) : Query.pairs (p.toQuery settings) = p.entries settings := by
  rw [toQuery, parameters_eq_map_spelled]
  exact Query.pairs_intercalate_spelled _

/-- A predicate is written as one parameter for each condition. -/
theorem length_entries (p : Predicate) : (p.entries settings).length = p.leaves.length := by
  induction p with
  | nullCheck check field => cases check <;> rfl
  | comparison op field first rest => rfl
  | both left right ihleft ihright =>
      rw [entries, leaves, List.length_append, List.length_append, ihleft, ihright]

end Predicate

/-! ## Keys -/

theorem Comparison.isSegment_token (op : Comparison) : IsSegment op.token := by
  cases op <;> decide

theorem Relation.isSegment_operator {relation : Relation} :
    ∀ o ∈ relation.operator?.toList, IsSegment o := by
  intro o ho
  cases relation with
  | comparison op =>
      rw [List.mem_singleton.1 ho]
      exact op.isSegment_token
  | nullCheck check =>
      cases check with
      | isNull => cases ho
      | isNotNull =>
          rw [List.mem_singleton.1 ho]
          exact Comparison.notEqual.isSegment_token

/-- **The key of a filter is read as that filter**, if its field and operator are segments. -/
theorem Filter.ofParam?_key {settings : Settings} {f : Filter}
    (hkeyword : f.keyword = settings.keyword) (hfield : IsSegment f.field)
    (hoperator : ∀ o ∈ f.operator.toList, IsSegment o) (hvalue : f.value.texts ≠ []) :
    Filter.ofParam? settings (f.key, f.value) = some f := by
  obtain ⟨keyword, field, operator, value⟩ := f
  cases hkeyword
  refine Filter.ofParam?_eq_some_iff.2 ⟨field, operator.toList, ?_, hvalue, ?_⟩
  · refine Filter.segments?_eq_some_iff.2 ⟨?_, ?_⟩
    · rw [Filter.key, write, String.toList_append, List.isPrefixOf_iff_prefix]
      exact List.prefix_append _ _
    · exact segments_write settings.isSegment_keyword (List.forall_mem_cons.2 ⟨hfield, hoperator⟩)
  · cases operator <;> rfl

end FilterQuery
