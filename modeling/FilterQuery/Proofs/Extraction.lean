/-
Which parameters are filters, and what is taken from them.

A parameter is a filter by the look of its key and by having a value: the key is the keyword, then a
bracket, and behind it something that is no bracket (`Filter.IsKey`). That is all. Whether brackets
match, how many groups there are and whether some are empty plays no part, and a key that merely
begins with the letters of the keyword does not have the bracket in the right place. The field is
then the first run behind the keyword and the operator the second (`Filter.TakenFrom`), and the
filters are those of the accepted entries, one for each and in the same order (`forall₂_takenFrom`).

One consequence is worth a section. A field is the first run, not what stands in the first pair of
brackets, so an empty group does not make a key one without a field. It counts for nothing, and the
group behind it is taken for the field. Keys with an empty group in front are ignored exactly when
nothing but brackets follows (`ignores_emptyGroup_iff`).
-/
import FilterQuery.Proofs.Composition
import FilterQuery.Proofs.Runs
import FilterQuery.Proofs.Writing

set_option autoImplicit false

namespace FilterQuery

open FilterQuery.BracketKey

namespace Filter

variable {settings : Settings}

/-! ## Keys of filters -/

/-- The key of a filter: the keyword, a bracket right behind it, and then somewhere a character that
is no bracket. -/
def IsKey (settings : Settings) (key : String) : Prop :=
  ∃ behind, key.toList = settings.keyword.toList ++ behind ∧
    (∃ c ∈ behind.head?, isBracket c = true) ∧ ∃ c ∈ behind, isBracket c = false

/-- **The keys of filters are those that have a segment behind the keyword.** -/
theorem isKey_iff {key : String} :
    IsKey settings key ↔ ∃ field rest, segments? settings key = some (field :: rest) := by
  constructor
  · rintro ⟨behind, hkey, ⟨c, hhead, hc⟩, d, hd, hfree⟩
    have hends : EndsRun behind := by
      intro b hb
      rwa [← Option.mem_unique hhead hb]
    obtain ⟨more, hruns⟩ := exists_runs behind
    rcases more with _ | ⟨run, more⟩
    · -- without a run there are brackets only
      have hd' := runs_nil_iff.1 hruns d hd
      rw [hfree] at hd'
      cases hd'
    · refine ⟨String.ofList run, more.map String.ofList, ?_⟩
      refine segments?_eq_some_iff_runs.2 ⟨behind, hkey, hends, ?_⟩
      simpa [Function.comp_def] using hruns
  · rintro ⟨field, rest, hsegments⟩
    obtain ⟨behind, hkey, hends, hruns⟩ := segments?_eq_some_iff_runs.1 hsegments
    obtain ⟨d, hd, hfree⟩ := hruns.exists_free
    rcases behind with _ | ⟨c, behind⟩
    · cases hd
    · exact ⟨c :: behind, hkey, ⟨c, rfl, hends c rfl⟩, d, hd, hfree⟩

instance (settings : Settings) (key : String) : Decidable (IsKey settings key) :=
  decidable_of_iff ((segments? settings key).any (· ≠ []) = true) (by
    rw [isKey_iff]
    cases segments? settings key with
    | none => simp
    | some segments => cases segments <;> simp)

/-! ## What a filter takes from its entry -/

/-- Whether an entry is a filter: its key is the key of one, and its value is not an empty list. -/
def Accepts (settings : Settings) (entry : String × ParamValue) : Prop :=
  IsKey settings entry.1 ∧ entry.2 ≠ .many []

instance (settings : Settings) : DecidablePred (Accepts settings) :=
  fun _ => inferInstanceAs (Decidable (_ ∧ _))

/-- What the filter of an entry is. -/
structure TakenFrom (settings : Settings) (entry : String × ParamValue) (f : Filter) : Prop where
  keyword_eq : f.keyword = settings.keyword
  /-- The field is the first run behind the keyword, and the operator the second if there is one. -/
  exists_runs : ∃ behind more, entry.1.toList = settings.keyword.toList ++ behind ∧
    EndsRun behind ∧ Runs behind (f.field.toList :: more) ∧
    f.operator = more.head?.map String.ofList
  /-- The texts are those of the entry, in order, and a list if they are one there. -/
  value_eq : f.value = entry.2
  isSegment_field : IsSegment f.field
  isSegment_operator : ∀ o ∈ f.operator, IsSegment o
  texts_ne_nil : f.value.texts ≠ []
  /-- The key in reports has the first segments of the entry's key, two or three of them. -/
  segments_key : segments f.key = f.keyword :: f.field :: f.operator.toList ∧
    segments f.key = (segments entry.1).take 3

theorem texts_eq_nil_iff {value : ParamValue} : value.texts = [] ↔ value = .many [] := by
  cases value <;> simp [ParamValue.texts]

/-- An entry has a filter exactly when it is accepted. -/
theorem exists_ofParam?_iff {entry : String × ParamValue} :
    (∃ f, ofParam? settings entry = some f) ↔ Accepts settings entry := by
  obtain ⟨key, value⟩ := entry
  rw [Accepts, isKey_iff, Ne, ← texts_eq_nil_iff]
  constructor
  · rintro ⟨f, hfilter⟩
    obtain ⟨field, rest, hrest, hne, -⟩ := ofParam?_eq_some_iff.1 hfilter
    exact ⟨⟨field, rest, hrest⟩, hne⟩
  · rintro ⟨⟨field, rest, hrest⟩, hne⟩
    exact ⟨_, ofParam?_eq_some_iff.2 ⟨field, rest, hrest, hne, rfl⟩⟩

/-- **What the filter of an entry is**, field by field. -/
theorem takenFrom_of_ofParam? {entry : String × ParamValue} {f : Filter}
    (hfilter : ofParam? settings entry = some f) : TakenFrom settings entry f := by
  obtain ⟨key, value⟩ := entry
  obtain ⟨field, rest, hrest, hne, rfl⟩ := ofParam?_eq_some_iff.1 hfilter
  obtain ⟨behind, hbehind, hends, hruns⟩ := segments?_eq_some_iff_runs.1 hrest
  have hsegments : segments key = settings.keyword :: field :: rest :=
    (segments?_eq_some_iff.1 hrest).2
  have hothers : ∀ s ∈ field :: rest, IsSegment s := by
    intro s hs
    have hmem : s ∈ segments key := by
      rw [hsegments]
      exact List.mem_cons_of_mem _ hs
    exact isSegment_of_mem_segments hmem
  have hoperator : ∀ o ∈ rest.head?, IsSegment o := by
    intro o ho
    exact hothers o (List.mem_cons_of_mem field (List.mem_of_mem_head? ho))
  -- the key in reports is written from the first segments, so they are read back
  have hwritten : segments (Filter.key ⟨settings.keyword, field, rest.head?, value⟩)
      = settings.keyword :: field :: rest.head?.toList := by
    apply segments_write settings.isSegment_keyword
    intro o ho
    rcases List.mem_cons.1 ho with rfl | ho
    · exact hothers o List.mem_cons_self
    · exact hoperator o (Option.mem_toList.1 ho)
  refine {
    keyword_eq := rfl
    exists_runs := ⟨behind, rest.map String.toList, hbehind, hends, hruns, ?_⟩
    value_eq := rfl
    isSegment_field := hothers field List.mem_cons_self
    isSegment_operator := hoperator
    texts_ne_nil := hne
    segments_key := ⟨hwritten, ?_⟩ }
  · rw [List.head?_map, Option.map_map]
    simp [Function.comp_def]
  · rw [hwritten, hsegments]
    cases rest <;> rfl

/-- **Extraction is exact.** The filters among parameters are those of the accepted entries, one for
each and in their order. -/
theorem forall₂_takenFrom (settings : Settings) (params : Params) :
    List.Forall₂ (TakenFrom settings) (params.filter (Accepts settings))
      (ofParams settings params) := by
  unfold ofParams
  induction params with
  | nil => exact .nil
  | cons entry params ih =>
      by_cases haccepts : Accepts settings entry
      · obtain ⟨f, hfilter⟩ := exists_ofParam?_iff.2 haccepts
        rw [List.filter_cons, if_pos (decide_eq_true haccepts), List.filterMap_cons_some hfilter]
        exact .cons (takenFrom_of_ofParam? hfilter) ih
      · have hnone : ofParam? settings entry = none := by
          rw [Option.eq_none_iff_forall_ne_some]
          intro f hfilter
          exact haccepts (exists_ofParam?_iff.1 ⟨f, hfilter⟩)
        rw [List.filter_cons, if_neg (by simpa using haccepts), List.filterMap_cons_none hnone]
        exact ih

/-- Another section, a key without a field, brackets that do not match, and an empty list. -/
example : ofParams .standard [("filters[a]", .one "1"), ("filter[]", .one "2"),
    ("filter]b[[ne", .many ["3", "4"]), ("filter[c]", .many [])]
      = [⟨"filter", "b", some "ne", .many ["3", "4"]⟩] := by
  decide

/-! ## Empty groups -/

/-- **An empty group counts for nothing**: the segments behind the keyword are the runs of what
follows the group. -/
theorem segments?_emptyGroup (settings : Settings) (s : String) :
    segments? settings (settings.keyword ++ "[]" ++ s)
      = some ((runs s.toList).map String.ofList) := by
  refine segments?_eq_some_iff_runs.2 ⟨'[' :: ']' :: s.toList, ?_, ?_, runs_iff.2 ?_⟩
  · simp [String.toList_append]
  · intro c hc
    cases hc
    rfl
  · have hbrackets : ∀ c ∈ ['[', ']'], isBracket c = true := by simp [isBracket]
    have hruns := runs_brackets_append hbrackets s.toList
    rw [List.cons_append, List.singleton_append] at hruns
    rw [hruns, List.map_map]
    simp [Function.comp_def]

/-- What a key with an empty group in front is read as: the first run behind the group is taken for
the field. -/
theorem ofParam?_emptyGroup_iff {s : String} {value : ParamValue} {f : Filter} :
    ofParam? settings (settings.keyword ++ "[]" ++ s, value) = some f ↔
      value ≠ .many [] ∧ ∃ more, Runs s.toList (f.field.toList :: more) ∧
        f = ⟨settings.keyword, f.field, more.head?.map String.ofList, value⟩ := by
  rw [ofParam?_eq_some_iff, segments?_emptyGroup, Ne, texts_eq_nil_iff]
  constructor
  · rintro ⟨field, rest, hrest, hne, rfl⟩
    have hsegments : (runs s.toList).map String.ofList = field :: rest := Option.some.inj hrest
    obtain ⟨run, more, hruns, rfl, rfl⟩ := List.map_eq_cons_iff.1 hsegments
    refine ⟨hne, more, runs_iff.2 ?_, ?_⟩
    · rw [hruns, String.toList_ofList]
    · rw [List.head?_map]
  · rintro ⟨hne, more, hruns, hf⟩
    refine ⟨f.field, more.map String.ofList, ?_, hne, ?_⟩
    · rw [hruns.runs_eq, List.map_cons, String.ofList_toList]
    · rw [List.head?_map]
      exact hf

/-- Such a key is no filter when brackets are all that follows, or when there is no value. -/
theorem ofParam?_emptyGroup_eq_none_iff {s : String} {value : ParamValue} :
    ofParam? settings (settings.keyword ++ "[]" ++ s, value) = none ↔
      (∀ c ∈ s.toList, isBracket c = true) ∨ value = .many [] := by
  constructor
  · intro hnone
    by_contra hother
    rw [not_or] at hother
    obtain ⟨hbehind, hne⟩ := hother
    obtain ⟨more, hruns⟩ := exists_runs s.toList
    rcases more with _ | ⟨run, more⟩
    · exact hbehind (runs_nil_iff.1 hruns)
    · -- the run behind the group is a field, so there is a filter after all
      have hfield : Runs s.toList ((String.ofList run).toList :: more) := by
        rwa [String.toList_ofList]
      have hfilter : ofParam? settings (settings.keyword ++ "[]" ++ s, value)
          = some ⟨settings.keyword, String.ofList run, more.head?.map String.ofList, value⟩ :=
        ofParam?_emptyGroup_iff.2 ⟨hne, more, hfield, rfl⟩
      rw [hnone] at hfilter
      cases hfilter
  · intro h
    rw [Option.eq_none_iff_forall_ne_some]
    intro f hfilter
    obtain ⟨hne, more, hruns, -⟩ := ofParam?_emptyGroup_iff.1 hfilter
    rcases h with hbrackets | hvalue
    · obtain ⟨c, hc, hfree⟩ := hruns.exists_free
      rw [hbrackets c hc] at hfree
      cases hfree
    · exact hne hvalue

/-- An entry makes no difference to the filters exactly when it is none itself. -/
theorem ofParams_append_cons_eq_iff {before after : Params} {entry : String × ParamValue} :
    ofParams settings (before ++ entry :: after) = ofParams settings (before ++ after) ↔
      ofParam? settings entry = none := by
  rw [ofParams_append, ofParams_append, List.append_cancel_left_eq]
  cases hfilter : ofParam? settings entry with
  | none => simp [ofParams, hfilter]
  | some f => simp [ofParams, hfilter]

end Filter

/-- Reading goes by the filters alone: parameters with the same filters have the same outcome. -/
theorem exists_parse_of_ofParams_eq {settings : Settings} {params others : Params}
    (hfilters : Filter.ofParams settings params = Filter.ofParams settings others)
    (query : String) : ∃ outcome notes notes',
      parse settings query (some params) = .ok (outcome, notes) ∧
      parse settings query (some others) = .ok (outcome, notes') := by
  obtain ⟨batch, hbatch, hparse⟩ := parseParams_eq settings query params
  obtain ⟨batch', hbatch', hparse'⟩ := parseParams_eq settings query others
  rw [hfilters, hbatch'] at hbatch
  cases hbatch
  exact ⟨_, _, _, hparse, hparse'⟩

/-- An entry is ignored among others when there are the same filters without it, and the same
outcome. -/
structure Params.Ignores (settings : Settings) (query : String) (before : Params)
    (entry : String × ParamValue) (after : Params) : Prop where
  ofParams_eq : Filter.ofParams settings (before ++ entry :: after)
    = Filter.ofParams settings (before ++ after)
  exists_parse : ∃ outcome notes notes',
    parse settings query (some (before ++ entry :: after)) = .ok (outcome, notes) ∧
    parse settings query (some (before ++ after)) = .ok (outcome, notes')

/-- **Which keys with an empty group are ignored**: those with nothing but brackets behind it, and
those whose value is an empty list. Any other is a filter on the first run behind the group. -/
theorem ignores_emptyGroup_iff (settings : Settings) (query : String) (before after : Params)
    (s : String) (value : ParamValue) :
    (Params.Ignores settings query before (settings.keyword ++ "[]" ++ s, value) after ↔
      (∀ c ∈ s.toList, isBracket c = true) ∨ value = .many []) ∧
    ∀ f, Filter.ofParam? settings (settings.keyword ++ "[]" ++ s, value) = some f ↔
      value ≠ .many [] ∧ ∃ more, Runs s.toList (f.field.toList :: more) ∧
        f = ⟨settings.keyword, f.field, more.head?.map String.ofList, value⟩ := by
  refine ⟨?_, fun f => Filter.ofParam?_emptyGroup_iff⟩
  constructor
  · intro h
    exact Filter.ofParam?_emptyGroup_eq_none_iff.1
      (Filter.ofParams_append_cons_eq_iff.1 h.ofParams_eq)
  · intro h
    have hnone : Filter.ofParam? settings (settings.keyword ++ "[]" ++ s, value) = none :=
      Filter.ofParam?_emptyGroup_eq_none_iff.2 h
    refine ⟨Filter.ofParams_append_cons_eq_iff.2 hnone, ?_⟩
    exact exists_parse_of_ofParams_eq (Filter.ofParams_append_cons_eq_iff.2 hnone) query

/-- A key with an empty group and a group behind it: it is a filter on the field in the second
group. -/
theorem not_ignores_of_group_behind :
    ¬ Params.Ignores .standard "filter[][a]=1" [] ("filter[][a]", .one "1") [] ∧
      (parse .standard "filter[][a]=1").toOption.map (·.1)
        = some { predicate := some (.comparison .equal "a" (.scalar (.int 1)) []) } := by
  refine ⟨?_, by decide +kernel⟩
  intro h
  have hfilters : Filter.ofParams .standard [("filter[][a]", .one "1")] = [] := h.ofParams_eq
  exact absurd hfilters (by decide)

end FilterQuery
