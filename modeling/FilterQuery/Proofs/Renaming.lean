/-
Another keyword for the filters.

Two readings are compared, under settings that differ in the keyword at most: the keys of the
second are those of the first with its own keyword in front. The keyword should make no difference
but in the names of keys, and it could in two places. Whether a key belongs to the filters is asked
of the whole key, so a keyword that begins another one, or a text behind it that goes on as a word,
might decide it differently; but what stands behind the keyword is all that counts
(`segments?_append_iff`). And each filter carries the keyword along into its reading, where it gets
into the note and into the report of a refusal and nowhere else (`read_under_cases`).

From there on both readings go through the same steps. The relation between them is `Renamed`, of
keys, notes, problems and outcomes in turn, and it says of each that it is the same but for the
keyword in front of a key.
-/
import FilterQuery.Proofs.Journal

set_option autoImplicit false

namespace FilterQuery

/-! ## What is the same under another keyword -/

/-- Settings that differ in the keyword at most. -/
structure Settings.SameButKeyword (a b : Settings) : Prop where
  nullWord_eq : a.nullWord = b.nullWord
  wildcard_eq : a.wildcard = b.wildcard
  fieldMarker_eq : a.fieldMarker = b.fieldMarker
  separator_eq : a.separator = b.separator

/-- The parameters with given values whose keys go on behind the keyword as given. -/
def Params.under (keyword : String) (entries : List (String × ParamValue)) : Params :=
  entries.map fun (behind, value) => (keyword ++ behind, value)

/-- Notes that tell the same, of keys that go on in the same way behind either keyword. -/
inductive Note.Renamed (keyword keyword' : String) : Note → Note → Prop
  | ignored (behind : String) :
      Renamed keyword keyword' (.ignored (keyword ++ behind)) (.ignored (keyword' ++ behind))
  | read (behind : String) (kind : Kind) (op : Operator) (relation : Relation) :
      Renamed keyword keyword' (.read (keyword ++ behind) kind op relation)
        (.read (keyword' ++ behind) kind op relation)
  | stopped (behind : String) (refusal : Refusal) :
      Renamed keyword keyword' (.stopped (keyword ++ behind) refusal)
        (.stopped (keyword' ++ behind) refusal)

/-- Problems that are the same, but for the keyword in front of the key. -/
structure Problem.Renamed (keyword keyword' : String) (a b : Problem) : Prop where
  kind_eq : a.kind = b.kind
  message_eq : a.message = b.message
  query_eq : a.query = b.query
  value_eq : a.value = b.value
  exists_key : ∃ behind, a.key = some (keyword ++ behind) ∧ b.key = some (keyword' ++ behind)

/-- Outcomes with the same predicate and the same problems, but for the keyword in front of keys. -/
structure Outcome.Renamed (keyword keyword' : String) (a b : Outcome) : Prop where
  predicate_eq : a.predicate = b.predicate
  problems : List.Forall₂ (Problem.Renamed keyword keyword') a.problems b.problems

namespace Filter

variable {settings settings' : Settings}

/-! ## Finding the filters -/

/-- **What stands behind the keyword decides** whether a key belongs to the filters, and what its
other segments are. -/
theorem segments?_append_iff {behind : String} {others : List String} :
    segments? settings (settings.keyword ++ behind) = some others ↔
      BracketKey.EndsRun behind.toList ∧
        BracketKey.Runs behind.toList (others.map String.toList) := by
  rw [segments?_eq_some_iff_runs, String.toList_append]
  constructor
  · rintro ⟨rest, hkey, hends, hruns⟩
    rw [List.append_cancel_left hkey]
    exact ⟨hends, hruns⟩
  · rintro ⟨hends, hruns⟩
    exact ⟨behind.toList, rfl, hends, hruns⟩

theorem segments?_append_eq (settings settings' : Settings) (behind : String) :
    segments? settings (settings.keyword ++ behind)
      = segments? settings' (settings'.keyword ++ behind) := by
  refine Option.ext fun others => ?_
  exact segments?_append_iff.trans segments?_append_iff.symm

/-- The filter under another keyword. -/
def under (keyword : String) (f : Filter) : Filter := { f with keyword }

theorem key_eq_append (f : Filter) :
    f.key = f.keyword ++ BracketKey.groups (f.field :: f.operator.toList) := rfl

theorem ofParam?_append_eq (settings settings' : Settings) (behind : String) (value : ParamValue) :
    ofParam? settings' (settings'.keyword ++ behind, value)
      = (ofParam? settings (settings.keyword ++ behind, value)).map (under settings'.keyword) := by
  rw [ofParam?, ofParam?, segments?_append_eq settings' settings]
  cases segments? settings (settings.keyword ++ behind) with
  | none => rfl
  | some segments =>
      cases segments with
      | nil => rfl
      | cons field rest =>
          dsimp only
          split <;> rfl

/-- **The filters are the same under either keyword.** -/
theorem ofParams_under (settings settings' : Settings) (entries : List (String × ParamValue)) :
    ofParams settings' (Params.under settings'.keyword entries)
      = (ofParams settings (Params.under settings.keyword entries)).map
          (under settings'.keyword) := by
  rw [ofParams, ofParams, Params.under, Params.under, List.filterMap_map, List.filterMap_map,
    List.map_filterMap]
  refine List.filterMap_congr fun entry _ => ?_
  exact ofParam?_append_eq settings settings' entry.1 entry.2

theorem keyword_eq_of_mem_ofParams {params : Params} {f : Filter}
    (hf : f ∈ ofParams settings params) : f.keyword = settings.keyword := by
  obtain ⟨⟨key, value⟩, -, hfilter⟩ := List.mem_filterMap.1 hf
  obtain ⟨field, rest, -, -, rfl⟩ := ofParam?_eq_some_iff.1 hfilter
  rfl

theorem isBare_append_iff (settings settings' : Settings) (behind : String) :
    IsBare settings (settings.keyword ++ behind)
      ↔ IsBare settings' (settings'.keyword ++ behind) := by
  rw [← segments?_eq_some_nil_iff, ← segments?_eq_some_nil_iff,
    segments?_append_eq settings settings']

/-- The keys ignored are those whose part behind the keyword makes them so. -/
theorem ignored_under (settings : Settings) (entries : List (String × ParamValue)) :
    ignored settings (Params.under settings.keyword entries)
      = (entries.filter fun e => IsBare settings (settings.keyword ++ e.1)).map
          fun e => .ignored (settings.keyword ++ e.1) := by
  have hkeys : (Params.under settings.keyword entries).keys
      = entries.map fun e => settings.keyword ++ e.1 := by
    rw [Params.keys, Params.under, List.map_map]
    rfl
  rw [ignored_eq_map, hkeys, List.filter_map, List.map_map]
  rfl

/-- **Keys without a field are ignored under either keyword.** -/
theorem forall₂_ignored (settings settings' : Settings) (entries : List (String × ParamValue)) :
    List.Forall₂ (Note.Renamed settings.keyword settings'.keyword)
      (ignored settings (Params.under settings.keyword entries))
      (ignored settings' (Params.under settings'.keyword entries)) := by
  have hfilter : (entries.filter fun e => IsBare settings' (settings'.keyword ++ e.1))
      = entries.filter fun e => IsBare settings (settings.keyword ++ e.1) := by
    refine List.filter_congr fun e _ => ?_
    exact decide_eq_decide.2 (isBare_append_iff settings' settings e.1)
  -- The same entries are left, and a note is made of each.
  rw [ignored_under, ignored_under, hfilter, List.forall₂_map_left_iff, List.forall₂_map_right_iff,
    List.forall₂_same]
  exact fun e _ => .ignored e.1

/-! ## Reading one filter -/

/-- The kind of values is the same under either keyword. -/
theorem ofValue_eq (hsame : settings.SameButKeyword settings') (value : String) :
    Kind.ofValue settings' value = Kind.ofValue settings value := by
  rw [Kind.ofValue, Kind.ofValue, Kind.isNullWord, Kind.isNullWord, hsame.nullWord_eq]

theorem shared?_eq (hsame : settings.SameButKeyword settings') (values : List String) :
    Kind.shared? settings' values = Kind.shared? settings values := by
  cases values with
  | nil => rfl
  | cons value rest =>
      rw [Kind.shared?, Kind.shared?]
      simp only [ofValue_eq hsame]

theorem onField_eq (hsame : settings.SameButKeyword settings') (field : String)
    (relation : Relation) (first : Scalar) (rest : List Scalar) :
    Predicate.onField settings' field relation first rest
      = Predicate.onField settings field relation first rest := by
  have hpattern : Predicate.pattern settings' = Predicate.pattern settings := by
    funext value
    rw [Predicate.pattern, Predicate.pattern, hsame.wildcard_eq]
  unfold Predicate.onField
  rw [hpattern]

/-- **Reading a filter does not look at its keyword.** It is refused for the same reason under
another one, or read as the same predicate, and the notes differ in the key they name. -/
theorem read_under_cases (hsame : settings.SameButKeyword settings') {f : Filter}
    (hne : f.value.texts ≠ []) :
    (∃ refusal, f.read settings = .error (.refused refusal) ∧
      (f.under settings'.keyword).read settings' = .error (.refused refusal)) ∨
    (∃ p kind op relation, f.read settings = .ok (p, .read f.key kind op relation) ∧
      (f.under settings'.keyword).read settings'
        = .ok (p, .read (f.under settings'.keyword).key kind op relation)) := by
  obtain ⟨shared, hshared⟩ := Kind.exists_shared? settings hne
  have hshared' : Kind.shared? settings' (f.under settings'.keyword).value.texts = .ok shared :=
    (shared?_eq hsame f.value.texts).trans hshared
  cases shared with
  | none => exact .inl ⟨_, read_of_not_shared hshared, read_of_not_shared hshared'⟩
  | some kind =>
      obtain ⟨first, rest, hread⟩ :=
        exists_values hne ((Kind.shared?_eq_some_iff hne).1 hshared)
      -- from here on neither reading looks at the settings but for the wildcard
      have hsteps := read_of_shared hshared hread
      have hsteps' := read_of_shared hshared' hread
      rw [hsteps, hsteps']
      dsimp only [under]
      cases resolve f.operator f.value.isList kind with
      | error refusal => exact .inl ⟨refusal, rfl, rfl⟩
      | ok op =>
          dsimp only
          cases mismatch? op f.value.isList kind with
          | some refusal => exact .inl ⟨refusal, rfl, rfl⟩
          | none =>
              dsimp only
              rw [onField_eq hsame]
              exact .inr ⟨_, kind, op, relation op kind, rfl, rfl⟩

/-! ## Reading several filters -/

/-- Batches that came about in the same way under either keyword. -/
structure Batch.Renamed (keyword keyword' : String) (a b : Batch) : Prop where
  predicates_eq : a.predicates = b.predicates
  notes : List.Forall₂ (Note.Renamed keyword keyword') a.notes b.notes
  refused : Option.Rel (fun x y => x.1.keyword = keyword ∧ y = (x.1.under keyword', x.2))
    a.refused b.refused

/-- **Filters are read in the same way under another keyword**, up to the same one. -/
theorem exists_readAll_under (hsame : settings.SameButKeyword settings') {fs : List Filter}
    (hkeyword : ∀ f ∈ fs, f.keyword = settings.keyword) (hvalues : ∀ f ∈ fs, f.value.texts ≠ []) :
    ∃ batch batch', readAll settings fs = .ok batch ∧
      readAll settings' (fs.map (under settings'.keyword)) = .ok batch' ∧
      Batch.Renamed settings.keyword settings'.keyword batch batch' := by
  -- Both readings stop at the same filter, so the induction is on the filters and not on a run.
  induction fs with
  | nil => exact ⟨_, _, rfl, rfl, rfl, .nil, .none⟩
  | cons f rest ih =>
      obtain ⟨hf, hrest⟩ := List.forall_mem_cons.1 hkeyword
      obtain ⟨hne, hothers⟩ := List.forall_mem_cons.1 hvalues
      have hkey : f.key = settings.keyword ++ BracketKey.groups (f.field :: f.operator.toList) := by
        rw [key_eq_append, hf]
      have hkey' : (f.under settings'.keyword).key
          = settings'.keyword ++ BracketKey.groups (f.field :: f.operator.toList) := rfl
      rw [List.map_cons]
      rcases read_under_cases hsame hne with
        ⟨refusal, hread, hread'⟩ | ⟨p, kind, op, relation, hread, hread'⟩
      · refine ⟨_, _, readAll_cons_of_refused rest hread, readAll_cons_of_refused _ hread', rfl,
          ?_, .some ⟨hf, rfl⟩⟩
        rw [hkey, hkey']
        exact .cons (.stopped _ refusal) .nil
      · obtain ⟨batch, batch', hbatch, hbatch', hrenamed⟩ := ih hrest hothers
        refine ⟨⟨p :: batch.predicates, .read f.key kind op relation :: batch.notes, batch.refused⟩,
          ⟨p :: batch'.predicates,
            .read (f.under settings'.keyword).key kind op relation :: batch'.notes,
            batch'.refused⟩,
          ?_, ?_, congrArg (p :: ·) hrenamed.predicates_eq, ?_, hrenamed.refused⟩
        · rw [readAll_cons_of_read rest hread, hbatch]
          rfl
        · rw [readAll_cons_of_read _ hread', hbatch']
          rfl
        · rw [hkey, hkey']
          exact .cons (.read _ kind op relation) hrenamed.notes

/-- Such batches have outcomes that differ in the same way. -/
theorem Batch.Renamed.result {keyword keyword' : String} {a b : Batch}
    (hrenamed : Batch.Renamed keyword keyword' a b) (query : String) :
    Outcome.Renamed keyword keyword' (a.result query) (b.result query) := by
  obtain ⟨predicates, notes, refused⟩ := a
  obtain ⟨predicates', notes', refused'⟩ := b
  obtain ⟨hpredicates, -, hrefused⟩ := hrenamed
  cases hrefused with
  | none => exact ⟨congrArg (fun ps => (Predicate.combine ps).toOption) hpredicates, .nil⟩
  | @some x y hxy =>
      obtain ⟨f, refusal⟩ := x
      obtain ⟨hkeyword, rfl⟩ := hxy
      refine ⟨rfl, .cons ⟨rfl, rfl, rfl, rfl, ?_⟩ .nil⟩
      refine ⟨BracketKey.groups (f.field :: f.operator.toList), ?_, rfl⟩
      rw [← hkeyword]
      rfl

end Filter

/-! ## Reading parameters -/

/-- **The keyword is only a name.** Under settings that differ in the keyword at most, parameters
whose keys go on in the same way behind either keyword are read in the same way: as the same
predicate, or with the same problem, and only the keyword in front of a key is another. -/
theorem parse_renamed {settings settings' : Settings}
    (hsame : settings.SameButKeyword settings') (query : String)
    (entries : List (String × ParamValue)) :
    ∃ outcome notes outcome' notes',
      parse settings query (some (Params.under settings.keyword entries))
        = .ok (outcome, notes) ∧
      parse settings' query (some (Params.under settings'.keyword entries))
        = .ok (outcome', notes') ∧
      Outcome.Renamed settings.keyword settings'.keyword outcome outcome' ∧
      List.Forall₂ (Note.Renamed settings.keyword settings'.keyword) notes notes' := by
  -- Either reading comes to an outcome; the filters of the second are those of the first, renamed.
  obtain ⟨batch, hbatch, hparse⟩ :=
    parseParams_eq settings query (Params.under settings.keyword entries)
  obtain ⟨batch', hbatch', hparse'⟩ :=
    parseParams_eq settings' query (Params.under settings'.keyword entries)
  have htexts : ∀ f ∈ Filter.ofParams settings (Params.under settings.keyword entries),
      f.value.texts ≠ [] := fun f hf => Filter.texts_ne_nil_of_mem_ofParams hf
  obtain ⟨read, read', hread, hread', hrenamed⟩ := Filter.exists_readAll_under hsame
    (fun f hf => Filter.keyword_eq_of_mem_ofParams hf) htexts
  rw [hbatch] at hread
  rw [← Filter.ofParams_under, hbatch'] at hread'
  obtain rfl := Except.ok.inj hread
  obtain rfl := Except.ok.inj hread'
  exact ⟨_, _, _, _, hparse, hparse', hrenamed.result query,
    List.rel_append (Filter.forall₂_ignored settings settings' entries) hrenamed.notes⟩

/-- A keyword that begins the other one: the first key goes on with the letter that the other has
more, the next two are no filters either, and of the two that are the last is refused. -/
theorem parse_renamed_of_longer_keyword :
    let other : Settings := { keyword := "filters" }
    let entries : List (String × ParamValue) :=
      [("s[a]", .one "1"), ("", .one "2"), ("][", .one "3"), ("[age]", .many ["18", "21"]),
        ("]name[gt", .one "null")]
    let refusal : Refusal := .nullWithOperator (.comparison .greater)
    let outcome (keyword : String) : Outcome :=
      { problems := [.ofRefusal refusal (some "") (some (keyword ++ "[name][gt]")) (.text "null")] }
    let notes (keyword : String) : List Note :=
      [.ignored keyword, .ignored (keyword ++ "]["),
        .read (keyword ++ "[age]") .number (.comparison .oneOf) (.comparison .oneOf),
        .stopped (keyword ++ "[name][gt]") refusal]
    Settings.standard.SameButKeyword other ∧
      parse .standard "" (some (Params.under "filter" entries))
        = .ok (outcome "filter", notes "filter") ∧
      parse other "" (some (Params.under "filters" entries))
        = .ok (outcome "filters", notes "filters") ∧
      Outcome.Renamed "filter" "filters" (outcome "filter") (outcome "filters") ∧
      List.Forall₂ (Note.Renamed "filter" "filters") (notes "filter") (notes "filters") := by
  intro other entries refusal outcome notes
  have hsame : Settings.standard.SameButKeyword other := ⟨rfl, rfl, rfl, rfl⟩
  obtain ⟨o, ns, o', ns', hparse, hparse', houtcome, hnotes⟩ := parse_renamed hsame "" entries
  have hvalue : parse .standard "" (some (Params.under "filter" entries))
      = .ok (outcome "filter", notes "filter") := eq_ok_of_toOption (by decide +kernel)
  have hvalue' : parse other "" (some (Params.under "filters" entries))
      = .ok (outcome "filters", notes "filters") := eq_ok_of_toOption (by decide +kernel)
  obtain ⟨rfl, rfl⟩ := Prod.mk.inj (Except.ok.inj (hparse.symm.trans hvalue))
  obtain ⟨rfl, rfl⟩ := Prod.mk.inj (Except.ok.inj (hparse'.symm.trans hvalue'))
  exact ⟨hsame, hvalue, hvalue', houtcome, hnotes⟩

end FilterQuery
