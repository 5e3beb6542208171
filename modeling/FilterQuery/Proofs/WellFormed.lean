/-
What builders of database queries may rely on.

Whatever the settings and the query string, a predicate that reading gives is a chain of conditions,
one for each filter and in the order of the filters. Each condition names a field that is not empty
and has no brackets; a comparison has one value unless it is a membership; the values of one
condition are all null, all numbers or all texts, and null is compared by membership only; and the
value of a substring comparison is a string between wildcards.

No function checks all this. It is what the check of the operator leaves over (`Relation.Suits`),
carried from the course of reading a filter to the condition that is built from it, and from there
to the chain.
-/
import FilterQuery.Proofs.Suits

set_option autoImplicit false

namespace FilterQuery

open FilterQuery.BracketKey

namespace Predicate

/-! ## Well-formed conditions -/

/-- The values of a comparison are alike: all null, which takes a membership, or all numbers, or all
texts. -/
def Alike (op : Comparison) (values : List Datum) : Prop :=
  (op.isSet = true ∧ ∀ v ∈ values, v = .null) ∨
    (∀ v ∈ values, ∃ s : Scalar, v = .scalar s ∧ s.IsNumber) ∨ ∀ v ∈ values, ∃ t, v = .text t

/-- What the condition read from a filter looks like. -/
def WellFormed (settings : Settings) (f : Filter) : Predicate → Prop
  | .nullCheck _ field => field = f.field ∧ IsSegment field
  | .comparison op field first rest =>
    field = f.field ∧ IsSegment field ∧ (op.isSet = false → rest = []) ∧
      Alike op (first :: rest) ∧
      (op = .like → ∃ v, f.value = .one v ∧ Kind.ofValue settings v = .string ∧
        first = .text (settings.wildcard ++ v ++ settings.wildcard))
  | .both _ _ => False

/-- A string between wildcards. -/
theorem pattern_text (settings : Settings) (t : String) :
    pattern settings (.scalar (.text t)) = .text (settings.wildcard ++ t ++ settings.wildcard) := by
  simp [pattern, Datum.plain, Scalar.plain]

/-- Values of a kind are alike, provided null is compared by membership. -/
theorem alike_of_isValue {settings : Settings} {op : Comparison} {kind : Kind}
    (values : List Scalar) (hvalues : ∀ v ∈ values, kind.IsValue settings v)
    (hnull : kind = .null → op.isSet = true) : Alike op (values.map .scalar) := by
  rw [Alike, List.forall_mem_map, List.forall_mem_map, List.forall_mem_map]
  cases kind with
  | null => exact .inl ⟨hnull rfl, fun v hv => by rw [(hvalues v hv).1]; rfl⟩
  | number => exact .inr (.inl fun v hv => ⟨v, rfl, hvalues v hv⟩)
  | date =>
      refine .inr (.inr fun v hv => ?_)
      obtain ⟨t, rfl, -⟩ := hvalues v hv
      exact ⟨t, rfl⟩
  | string =>
      refine .inr (.inr fun v hv => ?_)
      obtain ⟨t, rfl, -⟩ := hvalues v hv
      exact ⟨t, rfl⟩

end Predicate

/-! ## From a course to a condition -/

open Predicate

/-- The condition of a comparison other than by substring. -/
theorem wellFormed_of_ne_like {settings : Settings} {f : Filter} (c : f.Course settings)
    {op : Comparison} (hrelation : c.relation = .comparison op) (hop : op ≠ .like)
    (hfield : IsSegment f.field) :
    WellFormed settings f
      (.comparison op f.field (.scalar c.first) (c.rest.map .scalar)) := by
  have hsuits := c.suits
  rw [hrelation] at hsuits
  refine ⟨rfl, hfield, ?_, ?_, fun h => absurd h hop⟩
  · intro hset
    rcases hsuits with hmember | ⟨hlist, -, -⟩
    · rw [hset] at hmember
      cases hmember
    · rw [(c.exists_text_of_not_isList hlist).1]
      rfl
  · refine alike_of_isValue (c.first :: c.rest) (fun v hv => (c.isValue v hv).1) ?_
    intro hkind
    exact hsuits.resolve_right fun h => h.2.1 hkind

/-- **The condition of a filter that is read is well formed.** -/
theorem Filter.Course.wellFormed {settings : Settings} {f : Filter} (c : f.Course settings)
    (hfield : IsSegment f.field) : c.predicate.WellFormed settings f := by
  rw [Filter.Course.predicate]
  have hsuits := c.suits
  cases hrelation : c.relation with
  | nullCheck check => exact ⟨rfl, hfield⟩
  | comparison op =>
      rw [hrelation] at hsuits
      by_cases hop : op = .like
      · subst hop
        -- A substring comparison has one value, and that is a string.
        obtain ⟨hlist, -, hstring⟩ := hsuits.resolve_left Bool.false_ne_true
        obtain ⟨hrest, t, hvalue, hkind, hfirst⟩ := c.exists_text_of_not_isList hlist
        rw [hstring rfl] at hkind hfirst
        rw [onField, hrest, ← Except.ok.inj hfirst, pattern_text]
        refine ⟨rfl, hfield, fun _ => rfl, .inr (.inr ?_), fun _ => ⟨t, hvalue, hkind, rfl⟩⟩
        intro v hv
        exact ⟨_, List.mem_singleton.1 hv⟩
      · rw [onField_of_ne_like hop]
        exact wellFormed_of_ne_like c hrelation hop hfield

/-! ## The predicate of a query string -/

/-- A predicate that was read is the chain of what its filters are read as. -/
theorem forall₂_of_parse {settings : Settings} {query : String} {params : Option Params}
    {earlier : List Problem} {outcome : Outcome} {notes : List Note} {t : Predicate}
    (hparse : parse settings query params earlier = .ok (outcome, notes))
    (ht : outcome.predicate = some t) :
    t.LeftLeaning ∧ List.Forall₂ (fun f p => ∃ note, f.read settings = .ok (p, note))
      (Filter.ofParams settings (params.getD (Params.ofQuery settings query))) t.leaves := by
  cases earlier with
  | cons problem problems =>
      cases hparse
      cases ht
  | nil =>
      rw [parse_eq_parseParams] at hparse
      obtain ⟨batch, hbatch, hresult⟩ := parseParams_eq settings query
        (params.getD (Params.ofQuery settings query))
      rw [hresult] at hparse
      obtain ⟨rfl, -⟩ := Prod.mk.inj (Except.ok.inj hparse)
      cases hrefused : batch.refused with
      | some refused =>
          rw [Filter.Batch.result, hrefused] at ht
          cases ht
      | none =>
          rw [Filter.Batch.result, hrefused] at ht
          have hcombine : combine batch.predicates = .ok t := eq_ok_of_toOption ht
          obtain ⟨hlean, hleaves⟩ := combine_of_isLeaf
            (Filter.isLeaf_of_mem_readAll hbatch hrefused) hcombine
          rw [hleaves]
          exact ⟨hlean, Filter.forall₂_of_readAll hbatch hrefused⟩

/-- **Every predicate read is well formed**: a chain with one condition for each filter, each as
`WellFormed` says. -/
theorem parse_wellFormed {settings : Settings} {query : String} {params : Option Params}
    {earlier : List Problem} {outcome : Outcome} {notes : List Note} {t : Predicate}
    (hparse : parse settings query params earlier = .ok (outcome, notes))
    (ht : outcome.predicate = some t) :
    t.LeftLeaning ∧
      t.leaves.length
        = (Filter.ofParams settings (params.getD (Params.ofQuery settings query))).length ∧
      t.depth + 1 = t.leaves.length ∧
      List.Forall₂ (WellFormed settings)
        (Filter.ofParams settings (params.getD (Params.ofQuery settings query))) t.leaves := by
  obtain ⟨hlean, hread⟩ := forall₂_of_parse hparse ht
  refine ⟨hlean, hread.length_eq.symm, hlean.depth_add_one, ?_⟩
  rw [List.forall₂_iff_get] at hread ⊢
  refine ⟨hread.1, fun i hf hp => ?_⟩
  obtain ⟨note, hread⟩ := hread.2 i hf hp
  obtain ⟨c, hpredicate, -⟩ := Filter.read_eq_ok_iff.1 hread
  rw [← hpredicate]
  exact c.wellFormed (Filter.isSegment_field_of_mem_ofParams (List.get_mem _ _))

/-- A query string with a string, a number, a list and null: three levels of AND. -/
theorem parse_wellFormed_four_filters :
    let query := "filter[name]=Jo&filter[age][gte]=18&filter[id]=1,2&filter[left]=null"
    let t : Predicate := .both (.both (.both
      (.comparison .like "name" (.text "%Jo%") [])
      (.comparison .atLeast "age" (.scalar (.int 18)) []))
      (.comparison .oneOf "id" (.scalar (.int 1)) [.scalar (.int 2)]))
      (.nullCheck .isNull "left")
    let notes : List Note := [
      .read "filter[name]" .string (.comparison .like) (.comparison .like),
      .read "filter[age][gte]" .number (.comparison .atLeast) (.comparison .atLeast),
      .read "filter[id]" .number (.comparison .oneOf) (.comparison .oneOf),
      .read "filter[left]" .null .isNull (.nullCheck .isNull)]
    parse .standard query = .ok ({ predicate := some t }, notes) ∧
      t.LeftLeaning ∧
      t.leaves.length = (Filter.ofParams .standard (Params.ofQuery .standard query)).length ∧
      t.depth + 1 = t.leaves.length ∧
      List.Forall₂ (WellFormed .standard)
        (Filter.ofParams .standard (Params.ofQuery .standard query)) t.leaves := by
  intro query t notes
  have hparse : parse .standard query = .ok ({ predicate := some t }, notes) :=
    eq_ok_of_toOption (by decide +kernel)
  have hformed := parse_wellFormed hparse rfl
  exact ⟨hparse, hformed⟩

end FilterQuery
