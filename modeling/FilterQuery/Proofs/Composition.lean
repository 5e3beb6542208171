/-
Query strings that were put together from two.

When two query strings share no key, joining them with an ampersand joins what they mean. The
parameters of the whole are those of the first and then those of the second, so the filters are too,
and reading filters goes on to the second part unless the first was refused (`readAll_append`). What
is left is what this does to outcomes (`Outcome.Joins`): the first problem ends everything, and
without one the conditions of the second part follow those of the first.

Two things would break it. A key that both parts have would gather the values of both in the place
of the first. And a question mark in front of the second part, dropped when it is read by itself,
would belong to its first key in the whole.
-/
import FilterQuery.Proofs.QueryPairs
import FilterQuery.Proofs.Reading

set_option autoImplicit false

namespace FilterQuery

/-! ## Joining outcomes -/

/-- The problem when it is reported for another query string. -/
def Problem.within (whole : String) (p : Problem) : Problem :=
  { p with query := some whole }

/-- The conditions of an outcome, from left to right. -/
def Outcome.leaves (o : Outcome) : List Predicate :=
  o.predicate.elim [] Predicate.leaves

/-- What the outcome of two query strings put together owes to their own outcomes. -/
structure Outcome.Joins (whole : String) (first second joined : Outcome) : Prop where
  /-- A problem of the first part is the only one. -/
  of_first : first.problems ≠ [] →
    joined = { predicate := none, problems := first.problems.map (·.within whole) }
  /-- A problem of the second part is the only one if the first part has none. -/
  of_second : first.problems = [] → second.problems ≠ [] →
    joined = { predicate := none, problems := second.problems.map (·.within whole) }
  /-- Without a problem, the conditions of both parts are joined, if there are any. -/
  of_both : first.problems = [] → second.problems = [] →
    joined = { predicate := (Predicate.combine (first.leaves ++ second.leaves)).toOption,
               problems := [] }
  length_problems_le : joined.problems.length ≤ 1
  predicate_eq_none : joined.problems ≠ [] → joined.predicate = none

/-! ## The outcome of a batch -/

namespace Filter

variable {settings : Settings}

namespace Batch

/-- A batch reports the filter that was refused, and nothing else. -/
theorem problems_result (query : String) (batch : Batch) :
    (batch.result query).problems = batch.refused.toList.map fun (f, refusal) =>
      .ofRefusal refusal (some query) (some f.key) f.value.toDatum := by
  rw [result]
  cases batch.refused with
  | none => rfl
  | some refused => rfl

theorem problems_result_eq_nil_iff {query : String} {batch : Batch} :
    (batch.result query).problems = [] ↔ batch.refused = none := by
  rw [problems_result, List.map_eq_nil_iff]
  cases batch.refused with
  | none => simp
  | some refused => simp

theorem length_problems_result_le (query : String) (batch : Batch) :
    (batch.result query).problems.length ≤ 1 := by
  rw [problems_result, List.length_map]
  cases batch.refused with
  | none => exact Nat.zero_le 1
  | some refused => exact Nat.le_refl 1

/-- **Problems and a predicate exclude each other.** -/
theorem predicate_result_eq_none {query : String} {batch : Batch}
    (h : (batch.result query).problems ≠ []) : (batch.result query).predicate = none := by
  rw [Ne, problems_result_eq_nil_iff] at h
  obtain ⟨refused, hrefused⟩ := Option.ne_none_iff_exists'.1 h
  rw [result, hrefused]

/-- The query string is all that the report of a refusal takes from where it was found. -/
theorem result_of_refused {query whole : String} {batch : Batch} (h : batch.refused ≠ none) :
    batch.result whole
      = { predicate := none, problems := (batch.result query).problems.map (·.within whole) } := by
  obtain ⟨refused, hrefused⟩ := Option.ne_none_iff_exists'.1 h
  rw [problems_result, result, hrefused]
  rfl

/-- The conditions of an outcome are the predicates that were read. -/
theorem leaves_result {query : String} {batch : Batch} (hrefused : batch.refused = none)
    (hleaf : ∀ p ∈ batch.predicates, p.IsLeaf) :
    (batch.result query).leaves = batch.predicates := by
  rw [Outcome.leaves, result, hrefused]
  cases hcombine : Predicate.combine batch.predicates with
  | error misuse =>
      cases hpredicates : batch.predicates with
      | nil => rfl
      | cons p ps =>
          rw [hpredicates] at hcombine
          cases hcombine
  | ok t => exact (Predicate.combine_of_isLeaf hleaf hcombine).2

end Batch

/-- The filters among parameters that were put together. -/
theorem ofParams_append (first second : Params) :
    ofParams settings (first ++ second) = ofParams settings first ++ ofParams settings second :=
  List.filterMap_append

/-- **A refusal is all there is**, whatever comes behind it. -/
theorem joins_of_refused {before : Batch} (hrefused : before.refused ≠ none)
    (query whole : String) (second : Outcome) :
    Outcome.Joins whole (before.result query) second (before.result whole) := by
  have hproblems : (before.result query).problems ≠ [] :=
    mt Batch.problems_result_eq_nil_iff.1 hrefused
  exact {
    of_first := fun _ => Batch.result_of_refused hrefused
    of_second := fun h => absurd h hproblems
    of_both := fun h => absurd h hproblems
    length_problems_le := before.length_problems_result_le whole
    predicate_eq_none := Batch.predicate_result_eq_none }

/-- **Without a refusal, what comes behind decides**: its refusal is reported, or its predicates are
joined to those in front. -/
theorem joins_of_read {before after : Batch} (hrefused : before.refused = none)
    (hbefore : ∀ p ∈ before.predicates, p.IsLeaf)
    (hafter : after.refused = none → ∀ p ∈ after.predicates, p.IsLeaf)
    (query query' whole : String) :
    Outcome.Joins whole (before.result query) (after.result query')
      (Batch.result whole ⟨before.predicates ++ after.predicates, before.notes ++ after.notes,
        after.refused⟩) := by
  refine {
    of_first := fun h => absurd (Batch.problems_result_eq_nil_iff.2 hrefused) h
    of_second := ?_
    of_both := ?_
    length_problems_le := Batch.length_problems_result_le whole _
    predicate_eq_none := Batch.predicate_result_eq_none }
  · intro _ hsecond
    have hne : after.refused ≠ none := mt Batch.problems_result_eq_nil_iff.2 hsecond
    rw [← Batch.result_of_refused hne]
    obtain ⟨refused, hsome⟩ := Option.ne_none_iff_exists'.1 hne
    rw [Batch.result, Batch.result, hsome]
  · intro _ hsecond
    have hnone := Batch.problems_result_eq_nil_iff.1 hsecond
    rw [Batch.leaves_result hrefused hbefore, Batch.leaves_result hnone (hafter hnone),
      Batch.result, hnone]

/-- What reading all filters gives joins what reading the first ones and what reading the others
gives. -/
theorem exists_joined {fs gs : List Filter} {before after : Batch} (query query' whole : String)
    (hbefore : readAll settings fs = .ok before) (hafter : readAll settings gs = .ok after) :
    ∃ batch, readAll settings (fs ++ gs) = .ok batch ∧
      Outcome.Joins whole (before.result query) (after.result query') (batch.result whole) := by
  have happend := readAll_append hbefore gs
  cases hrefused : before.refused with
  | some refused =>
      have hne : before.refused ≠ none := by simp [hrefused]
      rw [hrefused] at happend
      exact ⟨before, happend, joins_of_refused hne query whole _⟩
  | none =>
      rw [hrefused, hafter] at happend
      exact ⟨_, happend, joins_of_read hrefused (isLeaf_of_mem_readAll hbefore hrefused)
        (isLeaf_of_mem_readAll hafter) query query' whole⟩

end Filter

/-! ## Joining query strings -/

/-- **Reading is compositional.** The outcome of two query strings without a common key, joined by
an ampersand, joins their outcomes; all three exist. -/
theorem parse_append (settings : Settings) {first second : String}
    (hhead : second.toList.head? ≠ some '?')
    (hkeys : ∀ key ∈ (Query.pairs first).map Prod.fst, key ∉ (Query.pairs second).map Prod.fst) :
    ∃ before notes after notes' joined notes'',
      parse settings first = .ok (before, notes) ∧
      parse settings second = .ok (after, notes') ∧
      parse settings (first ++ "&" ++ second) = .ok (joined, notes'') ∧
      Outcome.Joins (first ++ "&" ++ second) before after joined := by
  have hparams : Params.ofQuery settings (first ++ "&" ++ second)
      = Params.ofQuery settings first ++ Params.ofQuery settings second := by
    rw [Params.ofQuery, Query.pairs_append hhead, Params.ofPairs_append hkeys]
    rfl
  obtain ⟨before, hbefore, hfirst⟩ := parseParams_eq settings first
    (Params.ofQuery settings first)
  obtain ⟨after, hafter, hsecond⟩ := parseParams_eq settings second
    (Params.ofQuery settings second)
  obtain ⟨joined, hjoined, hwhole⟩ := parseParams_eq settings (first ++ "&" ++ second)
    (Params.ofQuery settings (first ++ "&" ++ second))
  obtain ⟨batch, hbatch, hjoins⟩ := Filter.exists_joined first second (first ++ "&" ++ second)
    hbefore hafter
  rw [hparams, Filter.ofParams_append, hbatch] at hjoined
  cases hjoined
  exact ⟨_, _, _, _, _, _, hfirst, hsecond, hwhole, hjoins⟩

/-- Two query strings of which the second has a problem, which is that of both together. -/
theorem parse_append_of_problem :
    let first := "?filter[age][gt]=18&page=2"
    let second := "filter[name][gt]=null&filter"
    let problem (query : String) : Problem :=
      .ofRefusal (.nullWithOperator (.comparison .greater)) (some query) (some "filter[name][gt]")
        (.text "null")
    let before : Outcome :=
      { predicate := some (.comparison .greater "age" (.scalar (.int 18)) []) }
    let after : Outcome := { problems := [problem second] }
    let joined : Outcome := { problems := [problem (first ++ "&" ++ second)] }
    (∃ notes, parse .standard first = .ok (before, notes)) ∧
      (∃ notes, parse .standard second = .ok (after, notes)) ∧
      (∃ notes, parse .standard (first ++ "&" ++ second) = .ok (joined, notes)) ∧
      Outcome.Joins (first ++ "&" ++ second) before after joined := by
  intro first second problem before after joined
  obtain ⟨o, notes, o', notes', o'', notes'', hfirst, hsecond, hwhole, hjoins⟩ :=
    @parse_append .standard first second (by decide) (by decide +kernel)
  have hvalues : (parse .standard first).toOption.map (·.1) = some before ∧
      (parse .standard second).toOption.map (·.1) = some after ∧
      (parse .standard (first ++ "&" ++ second)).toOption.map (·.1) = some joined := by
    decide +kernel
  rw [hfirst, hsecond, hwhole] at hvalues
  obtain ⟨hbefore, hafter, hjoined⟩ := hvalues
  obtain rfl := Option.some.inj hbefore
  obtain rfl := Option.some.inj hafter
  obtain rfl := Option.some.inj hjoined
  exact ⟨⟨notes, hfirst⟩, ⟨notes', hsecond⟩, ⟨notes'', hwhole⟩, hjoins⟩

end FilterQuery
