/-
The course of reading a filter, and of reading several.

Reading a filter is four steps, each with its own refusal. When none refuses, the steps leave
behind what they found: the kind of the values, the operator in force and the values themselves. A
`Course` is that record together with what each step had to find, and a filter is read exactly when
it has one (`read_eq_ok_iff`). Everything about the predicates that reading gives is a fact about
courses; nothing below opens `read` again.

Misuse is the other way to fail, and the filters taken from parameters leave no room for it: they
have a value, and texts that share a kind are read (`nonempty_course_or_refused`). Reading several
filters is taken apart one filter at a time (`readAll_cons_cases`). So reading parameters always has
an outcome (`parseParams_eq`), and what reading some filters and then others gives is what reading
them all gives, up to the first refusal (`readAll_append`).
-/
import FilterQuery.Parse
import FilterQuery.Proofs.Chain
import FilterQuery.Proofs.Kinds
import FilterQuery.Proofs.Params
import FilterQuery.Proofs.Runs

set_option autoImplicit false

namespace FilterQuery

/-! ## Building a predicate on a field -/

namespace Predicate

/-- The predicate that a relation makes of a field and values, when there is a value. -/
def onField (settings : Settings) (field : String) (relation : Relation) (first : Scalar)
    (rest : List Scalar) : Predicate :=
  match relation with
  | .nullCheck check => .nullCheck check field
  | .comparison .like =>
    .comparison .like field (pattern settings (.scalar first))
      (rest.map fun v => pattern settings (.scalar v))
  | .comparison op => .comparison op field (.scalar first) (rest.map .scalar)

theorem onField_of_ne_like {settings : Settings} {field : String} {op : Comparison}
    {first : Scalar} {rest : List Scalar} (hop : op ≠ .like) :
    onField settings field (.comparison op) first rest
      = .comparison op field (.scalar first) (rest.map .scalar) := by
  cases op with
  | like => exact absurd rfl hop
  | _ => rfl

theorem build_eq_onField (settings : Settings) (field : String) (relation : Relation)
    (first : Scalar) (rest : List Scalar) :
    build settings field relation ((first :: rest).map .scalar)
      = .ok (onField settings field relation first rest) := by
  cases relation with
  | nullCheck check => rfl
  | comparison op =>
      cases op with
      | like =>
          rw [build, onField, List.map_map]
          rfl
      | _ => rfl

end Predicate

/-! ## The steps of reading one filter -/

namespace Filter

variable {settings : Settings}

/-- What the steps of reading a filter find when none of them refuses. -/
structure Course (settings : Settings) (f : Filter) where
  kind : Kind
  op : Operator
  first : Scalar
  rest : List Scalar
  ofValue_eq : ∀ t ∈ f.value.texts, Kind.ofValue settings t = kind
  read_eq : kind.read f.value.texts = .ok (first :: rest)
  resolve_eq : resolve f.operator f.value.isList kind = .ok op
  mismatch?_eq : mismatch? op f.value.isList kind = none

namespace Course

variable {f : Filter}

/-- The relation in force. -/
def relation (c : Course settings f) : Relation := Filter.relation c.op c.kind

/-- The predicate read. -/
def predicate (c : Course settings f) : Predicate :=
  .onField settings f.field c.relation c.first c.rest

/-- The note about the reading. -/
def note (c : Course settings f) : Note :=
  .read f.key c.kind c.op c.relation

end Course

/-- Reading once the kind and the values are known: the operator, its suitability and the
predicate. -/
theorem read_of_shared {f : Filter} {kind : Kind} {first : Scalar} {rest : List Scalar}
    (hkind : Kind.shared? settings f.value.texts = .ok (some kind))
    (hread : kind.read f.value.texts = .ok (first :: rest)) :
    f.read settings = match resolve f.operator f.value.isList kind with
      | .error refusal => .error (.refused refusal)
      | .ok op => match mismatch? op f.value.isList kind with
        | some refusal => .error (.refused refusal)
        | none => .ok (.onField settings f.field (relation op kind) first rest,
            .read f.key kind op (relation op kind)) := by
  rw [read, hkind]
  simp only [Except.mapError, bind, Except.bind, hread]
  cases resolve f.operator f.value.isList kind with
  | error refusal => rfl
  | ok op =>
      simp only
      cases mismatch? op f.value.isList kind with
      | some refusal => rfl
      | none =>
          simp only [Predicate.build_eq_onField]
          rfl

/-- A filter with values is refused when they differ in kind. -/
theorem read_of_not_shared {f : Filter} (hkind : Kind.shared? settings f.value.texts = .ok none) :
    f.read settings = .error (.refused .mixedKinds) := by
  rw [read, hkind]
  rfl

/-- A filter without values cannot be read at all. -/
theorem texts_ne_nil_of_read {f : Filter} {result : Predicate × Note}
    (h : f.read settings = .ok result) : f.value.texts ≠ [] := by
  intro hnil
  rw [read, hnil] at h
  cases h

/-- The values of a filter that has some are read as values that are some. -/
theorem exists_values {f : Filter} (hne : f.value.texts ≠ []) {kind : Kind}
    (hkind : ∀ t ∈ f.value.texts, Kind.ofValue settings t = kind) :
    ∃ first rest, kind.read f.value.texts = .ok (first :: rest) := by
  obtain ⟨values, hread⟩ := Kind.exists_read hkind
  have hvalues : values ≠ [] := by
    intro hnil
    have hlength := Kind.length_of_read hread
    rw [hnil] at hlength
    exact hne (List.eq_nil_of_length_eq_zero hlength.symm)
  obtain ⟨first, rest, rfl⟩ := List.exists_cons_of_ne_nil hvalues
  exact ⟨first, rest, hread⟩

/-- A course is followed by reading. -/
theorem Course.read_eq_ok {f : Filter} (c : Course settings f) :
    f.read settings = .ok (c.predicate, c.note) := by
  have hne : f.value.texts ≠ [] := by
    intro hnil
    have hlength := Kind.length_of_read c.read_eq
    rw [hnil] at hlength
    cases hlength
  have hshared := (Kind.shared?_eq_some_iff hne).2 c.ofValue_eq
  rw [read_of_shared hshared c.read_eq, c.resolve_eq]
  dsimp only
  rw [c.mismatch?_eq]
  rfl

/-- **A filter that has a value either has a course or is refused.** There is no misuse. -/
theorem nonempty_course_or_refused (settings : Settings) {f : Filter} (hne : f.value.texts ≠ []) :
    Nonempty (Course settings f) ∨ ∃ refusal, f.read settings = .error (.refused refusal) := by
  obtain ⟨shared, hshared⟩ := Kind.exists_shared? settings hne
  cases shared with
  | none => exact .inr ⟨_, read_of_not_shared hshared⟩
  | some kind =>
      -- From here on a step refuses, or it leaves behind what the course records.
      have hkind := (Kind.shared?_eq_some_iff hne).1 hshared
      obtain ⟨first, rest, hread⟩ := exists_values hne hkind
      have hsteps := read_of_shared hshared hread
      cases hresolve : resolve f.operator f.value.isList kind with
      | error refusal =>
          rw [hresolve] at hsteps
          exact .inr ⟨refusal, hsteps⟩
      | ok op =>
          rw [hresolve] at hsteps
          dsimp only at hsteps
          cases hmismatch : mismatch? op f.value.isList kind with
          | some refusal =>
              rw [hmismatch] at hsteps
              exact .inr ⟨refusal, hsteps⟩
          | none => exact .inl ⟨⟨kind, op, first, rest, hkind, hread, hresolve, hmismatch⟩⟩

/-- **A filter is read exactly when it has a course**, and as the predicate of that course. -/
theorem read_eq_ok_iff {f : Filter} {p : Predicate} {note : Note} :
    f.read settings = .ok (p, note) ↔
      ∃ c : Course settings f, c.predicate = p ∧ c.note = note := by
  constructor
  · intro h
    have hne := texts_ne_nil_of_read h
    rcases nonempty_course_or_refused settings hne with ⟨⟨c⟩⟩ | ⟨refusal, hrefused⟩
    · rw [c.read_eq_ok] at h
      obtain ⟨hpredicate, hnote⟩ := Prod.mk.inj (Except.ok.inj h)
      exact ⟨c, hpredicate, hnote⟩
    · rw [hrefused] at h
      cases h
  · rintro ⟨c, rfl, rfl⟩
    exact c.read_eq_ok

/-- What is read from a filter is a condition on its field. -/
theorem isLeaf_of_read {f : Filter} {p : Predicate} {note : Note}
    (h : f.read settings = .ok (p, note)) : p.IsLeaf := by
  obtain ⟨c, rfl, -⟩ := read_eq_ok_iff.1 h
  unfold Course.predicate Predicate.onField
  split <;> trivial

/-! ## Finding the filters -/

theorem segments?_eq_some_iff {key : String} {rest : List String} :
    segments? settings key = some rest ↔
      settings.keyword.toList.isPrefixOf key.toList = true ∧
        BracketKey.segments key = settings.keyword :: rest := by
  rw [segments?]
  split
  · next hbegins =>
      cases hsegments : BracketKey.segments key with
      | nil => simp
      | cons first others =>
          by_cases hfirst : first = settings.keyword
          · simp [hfirst, hbegins]
          · simp [hfirst]
  · next hbegins => simp [hbegins]

/-- The segments behind the keyword are the runs of what is behind it, if that ends the keyword. -/
theorem segments?_eq_some_iff_runs {key : String} {rest : List String} :
    segments? settings key = some rest ↔
      ∃ behind, key.toList = settings.keyword.toList ++ behind ∧
        BracketKey.EndsRun behind ∧ BracketKey.Runs behind (rest.map String.toList) := by
  rw [segments?_eq_some_iff, List.isPrefixOf_iff_prefix]
  exact BracketKey.segments_eq_cons_iff settings.isSegment_keyword

/-- What a filter takes from its parameter. -/
theorem ofParam?_eq_some_iff {key : String} {value : ParamValue} {f : Filter} :
    ofParam? settings (key, value) = some f ↔
      ∃ field rest, segments? settings key = some (field :: rest) ∧ value.texts ≠ [] ∧
        f = ⟨settings.keyword, field, rest.head?, value⟩ := by
  rw [ofParam?]
  cases segments? settings key with
  | none => simp
  | some segments =>
      cases segments with
      | nil => simp
      | cons field rest =>
          by_cases hvalue : value.texts = []
          · simp [hvalue]
          · simp [hvalue, eq_comm]

/-- The filter of a parameter has a value, which is that of the parameter. -/
theorem texts_ne_nil_of_mem_ofParams {params : Params} {f : Filter}
    (hf : f ∈ ofParams settings params) : f.value.texts ≠ [] := by
  obtain ⟨⟨key, value⟩, -, hfilter⟩ := List.mem_filterMap.1 hf
  obtain ⟨field, rest, -, hne, rfl⟩ := ofParam?_eq_some_iff.1 hfilter
  exact hne

theorem exists_mem_of_mem_ofParams {params : Params} {f : Filter}
    (hf : f ∈ ofParams settings params) : ∃ key, (key, f.value) ∈ params := by
  obtain ⟨⟨key, value⟩, hmem, hfilter⟩ := List.mem_filterMap.1 hf
  obtain ⟨field, rest, -, -, rfl⟩ := ofParam?_eq_some_iff.1 hfilter
  exact ⟨key, hmem⟩

/-- The field of a filter is a segment of its key. -/
theorem isSegment_field_of_mem_ofParams {params : Params} {f : Filter}
    (hf : f ∈ ofParams settings params) : BracketKey.IsSegment f.field := by
  obtain ⟨⟨key, value⟩, -, hfilter⟩ := List.mem_filterMap.1 hf
  obtain ⟨field, rest, hsegments, -, rfl⟩ := ofParam?_eq_some_iff.1 hfilter
  have hmem : field ∈ BracketKey.segments key := by
    rw [(segments?_eq_some_iff.1 hsegments).2]
    exact List.mem_cons_of_mem _ List.mem_cons_self
  exact BracketKey.isSegment_of_mem_segments hmem

/-! ## Reading several filters -/

/-- A filter that is refused ends the reading. -/
theorem readAll_cons_of_refused {f : Filter} {refusal : Refusal} (rest : List Filter)
    (hread : f.read settings = .error (.refused refusal)) :
    readAll settings (f :: rest)
      = .ok ⟨[], [.stopped f.key refusal], some (f, refusal)⟩ := by
  rw [readAll, hread]

/-- A filter that is read is put in front of what the others are read as. -/
theorem readAll_cons_of_read {f : Filter} {p : Predicate} {note : Note} (rest : List Filter)
    (hread : f.read settings = .ok (p, note)) :
    readAll settings (f :: rest) = (readAll settings rest).map fun batch =>
      ⟨p :: batch.predicates, note :: batch.notes, batch.refused⟩ := by
  rw [readAll, hread]
  dsimp only
  cases readAll settings rest <;> rfl

/-- **What one more filter in front can do**: it is refused and nothing else is read, or it is read
and then the others are. -/
theorem readAll_cons_cases {f : Filter} {rest : List Filter} {batch : Batch}
    (hbatch : readAll settings (f :: rest) = .ok batch) :
    (∃ refusal, f.read settings = .error (.refused refusal) ∧
      batch = ⟨[], [.stopped f.key refusal], some (f, refusal)⟩) ∨
    (∃ p note before, f.read settings = .ok (p, note) ∧ readAll settings rest = .ok before ∧
      batch = ⟨p :: before.predicates, note :: before.notes, before.refused⟩) := by
  cases hread : f.read settings with
  | error failure =>
      cases failure with
      | misused misuse =>
          rw [readAll, hread] at hbatch
          cases hbatch
      | refused refusal =>
          rw [readAll_cons_of_refused rest hread] at hbatch
          exact .inl ⟨refusal, rfl, (Except.ok.inj hbatch).symm⟩
  | ok result =>
      obtain ⟨p, note⟩ := result
      rw [readAll_cons_of_read rest hread] at hbatch
      cases hrest : readAll settings rest with
      | error misuse =>
          rw [hrest] at hbatch
          cases hbatch
      | ok before =>
          rw [hrest] at hbatch
          exact .inr ⟨p, note, before, rfl, rfl, (Except.ok.inj hbatch).symm⟩

/-- Filters that have values are read without misuse. -/
theorem exists_readAll (settings : Settings) {fs : List Filter}
    (hfs : ∀ f ∈ fs, f.value.texts ≠ []) : ∃ batch, readAll settings fs = .ok batch := by
  induction fs with
  | nil => exact ⟨_, rfl⟩
  | cons f rest ih =>
      obtain ⟨hf, hrest⟩ := List.forall_mem_cons.1 hfs
      rcases nonempty_course_or_refused settings hf with ⟨⟨c⟩⟩ | ⟨refusal, hrefused⟩
      · obtain ⟨batch, hbatch⟩ := ih hrest
        rw [readAll_cons_of_read rest c.read_eq_ok, hbatch]
        exact ⟨_, rfl⟩
      · exact ⟨_, readAll_cons_of_refused rest hrefused⟩

/-- **Reading goes on to further filters unless one was refused.** -/
theorem readAll_append {fs : List Filter} {batch : Batch}
    (hbatch : readAll settings fs = .ok batch) (gs : List Filter) :
    readAll settings (fs ++ gs) = match batch.refused with
      | some _ => .ok batch
      | none => (readAll settings gs).map fun more =>
          ⟨batch.predicates ++ more.predicates, batch.notes ++ more.notes, more.refused⟩ := by
  induction fs generalizing batch with
  | nil =>
      cases hbatch
      rw [List.nil_append]
      cases readAll settings gs <;> rfl
  | cons f rest ih =>
      rcases readAll_cons_cases hbatch with
        ⟨refusal, hread, rfl⟩ | ⟨p, note, before, hread, hrest, rfl⟩
      · exact readAll_cons_of_refused (rest ++ gs) hread
      · rw [List.cons_append, readAll_cons_of_read (rest ++ gs) hread, ih hrest]
        obtain ⟨predicates, notes, refused⟩ := before
        cases refused with
        | some refused => rfl
        | none => cases readAll settings gs <;> rfl

/-- A batch without a refusal has the predicate of every filter. -/
theorem forall₂_of_readAll {fs : List Filter} {batch : Batch}
    (hbatch : readAll settings fs = .ok batch) (hrefused : batch.refused = none) :
    List.Forall₂ (fun f p => ∃ note, f.read settings = .ok (p, note)) fs batch.predicates := by
  induction fs generalizing batch with
  | nil =>
      cases hbatch
      exact .nil
  | cons f rest ih =>
      rcases readAll_cons_cases hbatch with
        ⟨refusal, hread, rfl⟩ | ⟨p, note, before, hread, hrest, rfl⟩
      · cases hrefused
      · exact .cons ⟨note, hread⟩ (ih hrest hrefused)

/-- What is on the right of such a batch was read from a filter on the left. -/
theorem exists_filter_of_mem {fs : List Filter} {ps : List Predicate}
    (h : List.Forall₂ (fun f p => ∃ note, f.read settings = .ok (p, note)) fs ps) :
    ∀ p ∈ ps, ∃ f ∈ fs, ∃ note, f.read settings = .ok (p, note) := by
  induction h with
  | nil => simp
  | @cons f p fs ps hread _ ih =>
      rw [List.forall_mem_cons]
      refine ⟨⟨f, List.mem_cons_self, hread⟩, fun q hq => ?_⟩
      obtain ⟨g, hg, hread⟩ := ih q hq
      exact ⟨g, List.mem_cons_of_mem f hg, hread⟩

theorem isLeaf_of_mem_readAll {fs : List Filter} {batch : Batch}
    (hbatch : readAll settings fs = .ok batch) (hrefused : batch.refused = none) :
    ∀ p ∈ batch.predicates, p.IsLeaf := by
  intro p hp
  obtain ⟨f, -, note, hread⟩ := exists_filter_of_mem (forall₂_of_readAll hbatch hrefused) p hp
  exact isLeaf_of_read hread

/-- Filters that can be read one by one are read together. -/
theorem exists_readAll_of_forall₂ {fs : List Filter} {ps : List Predicate}
    (h : List.Forall₂ (fun f p => ∃ note, f.read settings = .ok (p, note)) fs ps) :
    ∃ notes, readAll settings fs = .ok ⟨ps, notes, none⟩ := by
  induction h with
  | nil => exact ⟨[], rfl⟩
  | @cons f p fs ps hread _ ih =>
      obtain ⟨note, hread⟩ := hread
      obtain ⟨notes, hrest⟩ := ih
      refine ⟨note :: notes, ?_⟩
      rw [readAll_cons_of_read fs hread, hrest]
      rfl

end Filter

/-! ## The outcome -/

/-- A result that was evaluated, as an equation that can be used. -/
theorem eq_ok_of_toOption {ε α : Type} {x : Except ε α} {a : α} (h : x.toOption = some a) :
    x = .ok a := by
  cases x with
  | error e => cases h
  | ok b => exact congrArg Except.ok (Option.some.inj h)

/-- The outcome of a batch, when it is not misused. -/
def Filter.Batch.result (query : String) (batch : Filter.Batch) : Outcome :=
  match batch.refused with
  | some (f, refusal) =>
    { problems := [.ofRefusal refusal (some query) (some f.key) f.value.toDatum] }
  | none => { predicate := (Predicate.combine batch.predicates).toOption }

theorem Filter.Batch.outcome_eq (query : String) (batch : Filter.Batch) :
    batch.outcome query = .ok (batch.result query) := by
  obtain ⟨predicates, notes, refused⟩ := batch
  cases refused with
  | some refused => rfl
  | none =>
      cases predicates with
      | nil => rfl
      | cons p ps => rfl

/-- **Reading parameters always has an outcome**: that of the batch of their filters. -/
theorem parseParams_eq (settings : Settings) (query : String) (params : Params) :
    ∃ batch, Filter.readAll settings (Filter.ofParams settings params) = .ok batch ∧
      parseParams settings query params
        = .ok (batch.result query, Filter.ignored settings params ++ batch.notes) := by
  have hvalues : ∀ f ∈ Filter.ofParams settings params, f.value.texts ≠ [] :=
    fun f hf => Filter.texts_ne_nil_of_mem_ofParams hf
  obtain ⟨batch, hbatch⟩ := Filter.exists_readAll settings hvalues
  refine ⟨batch, hbatch, ?_⟩
  rw [parseParams, hbatch]
  simp only [bind, Except.bind, pure, Except.pure, Filter.Batch.outcome_eq]

/-- Without problems from before, a query string is read through its parameters. -/
theorem parse_eq_parseParams (settings : Settings) (query : String) (params : Option Params) :
    parse settings query params
      = parseParams settings query (params.getD (Params.ofQuery settings query)) := rfl

end FilterQuery
