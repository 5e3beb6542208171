/-
The parameter at fault.

When a filter is refused, the report gives a key and a value, and a client takes them for a
parameter of its own. The value is one: it is carried along untouched. The key is not carried along;
it is written anew from the segments that were read, and reading a key forgets how it was spelled.
So the report is about the right parameter, the first that is refused (`find?_of_parse`), and names
its segments, but not always under its own key.

When it does is a question about keys alone. A key is its own rewriting if it was written: a word and
one or two groups in brackets, none of them empty. Any other spelling is reported as one that was not
sent, such as `filter[a][gt]` for `filter[a][][gt]`, and if that key was sent as well, the report names
a parameter with nothing wrong.
-/
import FilterQuery.Proofs.Composition

set_option autoImplicit false

namespace FilterQuery

/-! ## Written keys -/

namespace BracketKey

/-- A key that is written as the filters' keys are: a word and at most two groups. -/
def IsWritten (key : String) : Prop :=
  ∃ first others, IsSegment first ∧ (∀ o ∈ others, IsSegment o) ∧ others.length ≤ 2 ∧
    key = write first others

/-- **A key is its own rewriting exactly when it is written**: rewriting keeps the first three
segments. -/
theorem write_eq_self_iff {key first : String} {others : List String}
    (hsegments : segments key = first :: others) :
    write first (others.take 2) = key ↔ IsWritten key := by
  have hall : ∀ s ∈ first :: others, IsSegment s := by
    rw [← hsegments]
    exact fun s hs => isSegment_of_mem_segments hs
  obtain ⟨hfirst, hothers⟩ := List.forall_mem_cons.1 hall
  constructor
  · intro hkey
    exact ⟨first, others.take 2, hfirst, fun o ho => hothers o (List.mem_of_mem_take ho),
      List.length_take_le 2 others, hkey.symm⟩
  · rintro ⟨first', others', hfirst', hothers', hlength, rfl⟩
    -- What was written is read back, so these are the segments of the key.
    rw [segments_write hfirst' hothers'] at hsegments
    obtain ⟨rfl, rfl⟩ := List.cons.inj hsegments
    rw [List.take_of_length_le hlength]

end BracketKey

namespace Filter

variable {settings : Settings}

/-! ## Where reading stops -/

/-- Whether a filter is not read. -/
def isRefused (settings : Settings) (f : Filter) : Bool :=
  match f.read settings with
  | .ok _ => false
  | .error _ => true

/-- Whether reading stops at a parameter: it is a filter, and that is not read. -/
def stopsAt (settings : Settings) (entry : String × ParamValue) : Bool :=
  (ofParam? settings entry).any (isRefused settings)

/-- **A batch ends at the first filter that is refused.** -/
theorem find?_of_readAll {fs : List Filter} {batch : Batch} {f : Filter} {refusal : Refusal}
    (hbatch : readAll settings fs = .ok batch) (hrefused : batch.refused = some (f, refusal)) :
    fs.find? (isRefused settings) = some f ∧ f.read settings = .error (.refused refusal) := by
  induction fs generalizing batch with
  | nil =>
      cases hbatch
      cases hrefused
  | cons g rest ih =>
      rcases readAll_cons_cases hbatch with
        ⟨reason, hread, rfl⟩ | ⟨p, note, before, hread, hrest, rfl⟩
      · obtain ⟨rfl, rfl⟩ := Prod.mk.inj (Option.some.inj hrefused)
        have hstop : isRefused settings g = true := by
          unfold isRefused
          rw [hread]
        exact ⟨List.find?_cons_of_pos hstop, hread⟩
      · have hpass : ¬ isRefused settings g = true := by
          unfold isRefused
          rw [hread]
          exact Bool.false_ne_true
        rw [List.find?_cons_of_neg hpass]
        exact ih hrest hrefused

/-- The first filter that is refused belongs to the first parameter at which reading stops. -/
theorem exists_find?_stopsAt {params : Params} {f : Filter}
    (hfind : (ofParams settings params).find? (isRefused settings) = some f) :
    ∃ key, params.find? (stopsAt settings) = some (key, f.value) ∧
      ofParam? settings (key, f.value) = some f := by
  rw [ofParams, List.find?_filterMap] at hfind
  obtain ⟨⟨key, value⟩, hentry, hfilter⟩ := Option.bind_eq_some_iff.1 hfind
  obtain ⟨field, rest, -, -, rfl⟩ := ofParam?_eq_some_iff.1 hfilter
  exact ⟨key, hentry, hfilter⟩

/-- The key that a filter is reported under is the key of its parameter, read and written. -/
theorem exists_segments_of_ofParam? {key : String} {value : ParamValue} {f : Filter}
    (hfilter : ofParam? settings (key, value) = some f) :
    ∃ others, BracketKey.segments key = settings.keyword :: others ∧
      f.key = BracketKey.write settings.keyword (others.take 2) := by
  obtain ⟨field, rest, hsegments, -, rfl⟩ := ofParam?_eq_some_iff.1 hfilter
  refine ⟨field :: rest, (segments?_eq_some_iff.1 hsegments).2, ?_⟩
  cases rest with
  | nil => rfl
  | cons operator rest => rfl

end Filter

/-! ## What a problem is about -/

/-- A problem locates the parameter that caused it when its key and its value are those of an entry,
and that entry is the first at which reading stops. -/
def Problem.Locates (settings : Settings) (params : Params) (p : Problem) : Prop :=
  ∃ key value, p.key = some key ∧ p.value = value.toDatum ∧ params.lookup key = some value ∧
    params.find? (Filter.stopsAt settings) = some (key, value)

/-- Among distinct keys, an entry that was found is the one stored under its key. -/
theorem Params.lookup_of_find? {params : Params} (hkeys : params.keys.Nodup)
    {test : String × ParamValue → Bool} {key : String} {value : ParamValue}
    (hfind : params.find? test = some (key, value)) : params.lookup key = some value := by
  have hentry : (key, value) ∈ params := List.mem_of_find?_eq_some hfind
  exact lookup_of_mem hkeys hentry

/-- **A problem is about the first filter that is refused**, and gives its value untouched. -/
theorem find?_of_parse {settings : Settings} {query : String} {params : Option Params}
    {outcome : Outcome} {notes : List Note} {problem : Problem}
    (hparse : parse settings query params = .ok (outcome, notes))
    (hproblem : problem ∈ outcome.problems) :
    ∃ key f refusal,
      (params.getD (Params.ofQuery settings query)).find? (Filter.stopsAt settings)
        = some (key, f.value) ∧
      Filter.ofParam? settings (key, f.value) = some f ∧
      f.read settings = .error (.refused refusal) ∧
      problem = .ofRefusal refusal (some query) (some f.key) f.value.toDatum := by
  rw [parse_eq_parseParams] at hparse
  obtain ⟨batch, hbatch, hresult⟩ := parseParams_eq settings query
    (params.getD (Params.ofQuery settings query))
  rw [hresult] at hparse
  obtain ⟨rfl, -⟩ := Prod.mk.inj (Except.ok.inj hparse)
  rw [Filter.Batch.problems_result] at hproblem
  obtain ⟨⟨f, refusal⟩, hrefused, rfl⟩ := List.mem_map.1 hproblem
  obtain ⟨hfind, hread⟩ := Filter.find?_of_readAll hbatch (Option.mem_toList.1 hrefused)
  obtain ⟨key, hentry, hfilter⟩ := Filter.exists_find?_stopsAt hfind
  exact ⟨key, f, refusal, hentry, hfilter, hread, rfl⟩

/-- **What a problem says of its parameter.** It is about the first parameter at which reading stops,
gives its value, and gives its first segments, written as a key. That locates the parameter exactly
when its own key is written so. -/
theorem problem_locates_iff {settings : Settings} {query : String} {params : Option Params}
    {outcome : Outcome} {notes : List Note} {problem : Problem}
    (hkeys : ∀ given, params = some given → given.keys.Nodup)
    (hparse : parse settings query params = .ok (outcome, notes))
    (hproblem : problem ∈ outcome.problems) :
    ∃ key value others,
      (params.getD (Params.ofQuery settings query)).find? (Filter.stopsAt settings)
        = some (key, value) ∧
      problem.value = value.toDatum ∧
      BracketKey.segments key = settings.keyword :: others ∧
      problem.key = some (BracketKey.write settings.keyword (others.take 2)) ∧
      (problem.Locates settings (params.getD (Params.ofQuery settings query)) ↔
        BracketKey.IsWritten key) := by
  obtain ⟨key, f, refusal, hfind, hfilter, -, rfl⟩ := find?_of_parse hparse hproblem
  obtain ⟨others, hsegments, hkey⟩ := Filter.exists_segments_of_ofParam? hfilter
  have hreported : (Problem.ofRefusal refusal (some query) (some f.key) f.value.toDatum).key
      = some (BracketKey.write settings.keyword (others.take 2)) := congrArg some hkey
  have hnodup : (params.getD (Params.ofQuery settings query)).keys.Nodup := by
    cases params with
    | none => exact Params.nodup_keys_ofPairs _ _
    | some given => exact hkeys given rfl
  refine ⟨key, f.value, others, hfind, rfl, hsegments, hreported, ?_⟩
  rw [← BracketKey.write_eq_self_iff hsegments]
  constructor
  · rintro ⟨key', value', hkey', -, -, hfind'⟩
    rw [hfind] at hfind'
    rw [hreported] at hkey'
    obtain ⟨rfl, -⟩ := Prod.mk.inj (Option.some.inj hfind')
    exact Option.some.inj hkey'
  · intro hself
    rw [hself] at hreported
    exact ⟨key, f.value, hreported, rfl, Params.lookup_of_find? hnodup hfind, hfind⟩

/-- A key with a group too many, and a filter in front that is read. -/
theorem problem_locates_iff_of_third_group :
    let query := "filter[age]=18&filter[name][ilike][x]=null"
    let problem : Problem := .ofRefusal (.nullWithOperator (.comparison .like)) (some query)
      (some "filter[name][ilike]") (.text "null")
    let notes : List Note := [
      .read "filter[age]" .number (.comparison .equal) (.comparison .equal),
      .stopped "filter[name][ilike]" (.nullWithOperator (.comparison .like))]
    parse .standard query = .ok ({ problems := [problem] }, notes) ∧
      ∃ key value others,
        (Params.ofQuery .standard query).find? (Filter.stopsAt .standard) = some (key, value) ∧
        problem.value = value.toDatum ∧
        BracketKey.segments key = Settings.standard.keyword :: others ∧
        problem.key = some (BracketKey.write Settings.standard.keyword (others.take 2)) ∧
        (problem.Locates .standard (Params.ofQuery .standard query) ↔
          BracketKey.IsWritten key) := by
  intro query problem notes
  have hparse : parse .standard query = .ok ({ problems := [problem] }, notes) :=
    eq_ok_of_toOption (by decide +kernel)
  have hgiven : ∀ given : Params, none = some given → given.keys.Nodup := by
    intro given h
    cases h
  exact ⟨hparse, problem_locates_iff hgiven hparse List.mem_cons_self⟩

/-- Two spellings of one field and operator: the second is refused, and reported under the key of the
first, where another value is stored. -/
theorem not_locates_of_two_spellings :
    let query := "filter[a][gt]=1&filter[a][][gt]=null"
    let problem : Problem := .ofRefusal (.nullWithOperator (.comparison .greater)) (some query)
      (some "filter[a][gt]") (.text "null")
    (parse .standard query).toOption.map (·.1) = some { problems := [problem] } ∧
      (Params.ofQuery .standard query).lookup "filter[a][gt]" = some (.one "1") ∧
      ¬ problem.Locates .standard (Params.ofQuery .standard query) := by
  intro query problem
  have hstored : (Params.ofQuery .standard query).lookup "filter[a][gt]" = some (.one "1") := by
    decide +kernel
  refine ⟨by decide +kernel, hstored, ?_⟩
  rintro ⟨key, value, hkey, hvalue, hlookup, -⟩
  have hnamed : "filter[a][gt]" = key := Option.some.inj hkey
  rw [← hnamed, hstored] at hlookup
  rw [← Option.some.inj hlookup] at hvalue
  exact absurd hvalue (by decide)

end FilterQuery
