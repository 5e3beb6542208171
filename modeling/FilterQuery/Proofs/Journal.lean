/-
What the notes on reading tell.

Notes come from three places: looking for the filters, reading one of them, and giving up. They are
for people, so what matters is that they tell the truth, in order, and all of it. Reading several
filters is therefore taken as a run: the filters that were read, each with the record of what its
steps found, and the others, the first of which was refused. Predicates and notes both follow from
the run, and that is why they agree (`nonempty_run`).

A note on an ignored key is about how the key is spelled. The keys without a field are those that
have nothing but brackets behind the keyword (`segments?_eq_some_nil_iff`): where there is no run
behind it, there are only brackets.
-/
import FilterQuery.Proofs.Composition
import FilterQuery.Proofs.Writing

set_option autoImplicit false

namespace FilterQuery

/-! ## Keys without a field -/

namespace Filter

variable {settings : Settings}

/-- A key that has nothing but brackets behind the keyword. -/
def IsBare (settings : Settings) (key : String) : Prop :=
  ∃ brackets, key.toList = settings.keyword.toList ++ brackets ∧
    ∀ c ∈ brackets, BracketKey.isBracket c = true

/-- **The keys without a field are the keyword and brackets.** -/
theorem segments?_eq_some_nil_iff {key : String} :
    segments? settings key = some [] ↔ IsBare settings key := by
  rw [segments?_eq_some_iff_runs]
  constructor
  · rintro ⟨brackets, hkey, -, hruns⟩
    exact ⟨brackets, hkey, BracketKey.runs_nil_iff.1 hruns⟩
  · rintro ⟨brackets, hkey, hbrackets⟩
    refine ⟨brackets, hkey, ?_, BracketKey.runs_nil_iff.2 hbrackets⟩
    intro c hc
    exact hbrackets c (List.mem_of_mem_head? hc)

instance (settings : Settings) (key : String) : Decidable (IsBare settings key) :=
  decidable_of_iff (segments? settings key = some []) segments?_eq_some_nil_iff

/-- Ignored are the keys without a field, in order. -/
theorem ignored_eq_map (params : Params) :
    ignored settings params = (params.keys.filter (IsBare settings)).map .ignored := by
  rw [ignored, Params.keys]
  induction params with
  | nil => rfl
  | cons entry params ih =>
      rw [List.filterMap_cons, List.map_cons, List.filter_cons, ih]
      by_cases hbare : IsBare settings entry.1
      · simp [hbare, segments?_eq_some_nil_iff]
      · simp [hbare, segments?_eq_some_nil_iff]

/-! ## Runs -/

/-- A filter that is read, with what its steps find. -/
abbrev Done (settings : Settings) := (f : Filter) × Course settings f

/-- How reading some filters went: which were read, and which were not because the first of them was
refused. -/
structure Run (settings : Settings) (fs : List Filter) (batch : Batch) where
  done : List (Done settings)
  rest : List Filter
  filters_eq : fs = done.map (·.1) ++ rest
  predicates_eq : batch.predicates = done.map (·.2.predicate)
  notes_eq : batch.notes = done.map (·.2.note) ++
    batch.refused.toList.map fun (f, refusal) => .stopped f.key refusal
  rest_of_read : batch.refused = none → rest = []
  rest_of_refused : ∀ f refusal, batch.refused = some (f, refusal) →
    f.read settings = .error (.refused refusal) ∧ ∃ others, rest = f :: others

namespace Run

/-- A filter that is refused is all there is to a run. -/
def ofRefused {f : Filter} {refusal : Refusal} (rest : List Filter)
    (hread : f.read settings = .error (.refused refusal)) :
    Run settings (f :: rest) ⟨[], [.stopped f.key refusal], some (f, refusal)⟩ where
  done := []
  rest := f :: rest
  filters_eq := rfl
  predicates_eq := rfl
  notes_eq := rfl
  rest_of_read := by
    intro hrefused
    cases hrefused
  rest_of_refused := by
    intro g reason hrefused
    cases hrefused
    exact ⟨hread, rest, rfl⟩

/-- A filter that is read comes first in a run through it and others. -/
def cons {f : Filter} {rest : List Filter} {before : Batch} (c : Course settings f)
    (run : Run settings rest before) :
    Run settings (f :: rest)
      ⟨c.predicate :: before.predicates, c.note :: before.notes, before.refused⟩ where
  done := ⟨f, c⟩ :: run.done
  rest := run.rest
  filters_eq := by rw [List.map_cons, List.cons_append, ← run.filters_eq]
  predicates_eq := by rw [List.map_cons, ← run.predicates_eq]
  notes_eq := by rw [List.map_cons, List.cons_append, ← run.notes_eq]
  rest_of_read := run.rest_of_read
  rest_of_refused := run.rest_of_refused

end Run

/-- **Whatever is read is read in a run.** -/
theorem nonempty_run {fs : List Filter} {batch : Batch} (hbatch : readAll settings fs = .ok batch) :
    Nonempty (Run settings fs batch) := by
  induction fs generalizing batch with
  | nil =>
      cases hbatch
      exact ⟨{
        done := []
        rest := []
        filters_eq := rfl
        predicates_eq := rfl
        notes_eq := rfl
        rest_of_read := fun _ => rfl
        rest_of_refused := by simp }⟩
  | cons f rest ih =>
      rcases readAll_cons_cases hbatch with
        ⟨refusal, hread, rfl⟩ | ⟨p, note, before, hread, hrest, rfl⟩
      · exact ⟨.ofRefused rest hread⟩
      · obtain ⟨c, rfl, rfl⟩ := read_eq_ok_iff.1 hread
        obtain ⟨run⟩ := ih hrest
        exact ⟨.cons c run⟩

end Filter

/-! ## The journal -/

/-- The relation of a condition on a single field. -/
def Predicate.relation? : Predicate → Option Relation
  | .nullCheck check _ => some (.nullCheck check)
  | .comparison op _ _ _ => some (.comparison op)
  | .both _ _ => none

theorem Filter.Course.relation?_predicate {settings : Settings} {f : Filter}
    (c : Filter.Course settings f) : c.predicate.relation? = some c.relation := by
  unfold Filter.Course.predicate Predicate.onField
  split
  · next check hrelation => rw [hrelation, Predicate.relation?]
  · next hrelation => rw [hrelation, Predicate.relation?]
  · next op hlike hrelation => rw [hrelation, Predicate.relation?]

/-- What is told of a filter that was read: its key, the kind of its values, the operator in force
and the relation that this operator means. -/
def Filter.Done.line {settings : Settings} (done : Filter.Done settings) : String :=
  "Filter " ++ done.1.key ++ ": type=" ++ done.2.kind.name ++ " operator=" ++ done.2.op.text ++
    " -> " ++ done.2.relation.symbol

/-- What is told of the filter at which reading stopped, from the problem that is reported. -/
def Problem.line (p : Problem) : String :=
  "Stopping filter parsing at " ++ p.key.getD "" ++ ": " ++ p.message

/-- How an outcome came about: the filters among the parameters that were read, and the others. The
first of the others is the only problem; without others there is none. -/
structure Journal (settings : Settings) (query : String) (params : Params) (outcome : Outcome) where
  done : List (Filter.Done settings)
  rest : List Filter
  filters_eq : Filter.ofParams settings params = done.map (·.1) ++ rest
  problems_eq : rest = [] ∧ outcome.problems = [] ∨
    ∃ f others refusal, rest = f :: others ∧ f.read settings = .error (.refused refusal) ∧
      outcome.problems = [.ofRefusal refusal (some query) (some f.key) f.value.toDatum]
  /-- Without a problem there is one condition for each filter, with the relation found for it. -/
  relations : outcome.problems = [] →
    List.Forall₂ (fun f leaf => leaf.relation? = some f.2.relation) done outcome.leaves

/-- The lines of a journal: one for each key without a field, one for each filter that was read, and
one for the problem, if there is one. -/
def Journal.lines {settings : Settings} {query : String} {params : Params} {outcome : Outcome}
    (journal : Journal settings query params outcome) : List String :=
  ((params.keys.filter (Filter.IsBare settings)).map
      fun key => "Ignoring filter parameter without a field: " ++ key) ++
    journal.done.map Filter.Done.line ++ outcome.problems.map Problem.line

namespace Filter.Run

variable {settings : Settings} {params : Params} {batch : Batch}

/-- A run through the filters among parameters is how its outcome came about. -/
def journal (run : Run settings (ofParams settings params) batch) (query : String)
    (hbatch : readAll settings (ofParams settings params) = .ok batch) :
    Journal settings query params (batch.result query) where
  done := run.done
  rest := run.rest
  filters_eq := run.filters_eq
  problems_eq := by
    rw [Batch.problems_result]
    cases hrefused : batch.refused with
    | none => exact .inl ⟨run.rest_of_read hrefused, rfl⟩
    | some refused =>
        obtain ⟨f, refusal⟩ := refused
        obtain ⟨hread, others, hrest⟩ := run.rest_of_refused f refusal hrefused
        exact .inr ⟨f, others, refusal, hrest, hread, rfl⟩
  relations := by
    intro hproblems
    have hrefused := Batch.problems_result_eq_nil_iff.1 hproblems
    rw [Batch.leaves_result hrefused (isLeaf_of_mem_readAll hbatch hrefused), run.predicates_eq,
      List.forall₂_map_right_iff, List.forall₂_same]
    intro done _
    exact done.2.relation?_predicate

/-- **The notes of a run are the lines of its journal.** -/
theorem map_text_notes (run : Run settings (ofParams settings params) batch) (query : String)
    (hbatch : readAll settings (ofParams settings params) = .ok batch) :
    (ignored settings params ++ batch.notes).map Note.text
      = (run.journal query hbatch).lines := by
  rw [Journal.lines, Batch.problems_result, ignored_eq_map, run.notes_eq, List.map_append,
    List.map_append, List.map_map, List.map_map, List.map_map, List.map_map, List.append_assoc]
  rfl

end Filter.Run

/-- **The notes tell what happened.** Reading without problems from before has an outcome and notes,
and the notes are the lines of the journal of that outcome; with problems from before there is nothing
to note. -/
theorem parse_notes (settings : Settings) (query : String) (params : Option Params) :
    (∃ outcome notes, parse settings query params = .ok (outcome, notes) ∧
      ∃ journal : Journal settings query (params.getD (Params.ofQuery settings query)) outcome,
        notes.map Note.text = journal.lines) ∧
    ∀ problem problems, parse settings query params (problem :: problems)
      = .ok ({ problems := problem :: problems }, []) := by
  constructor
  · obtain ⟨batch, hbatch, hresult⟩ := parseParams_eq settings query
      (params.getD (Params.ofQuery settings query))
    obtain ⟨run⟩ := Filter.nonempty_run hbatch
    exact ⟨_, _, hresult, run.journal query hbatch, run.map_text_notes query hbatch⟩
  · intro problem problems
    rfl

/-- A key without a field behind a filter that is read, and a filter behind the one that is
refused. -/
example : ((parse .standard "filter[age]=1&filter[]=x&filter[a][gt]=null&filter[b]=2").toOption.map
    fun result => result.2.map Note.text) = some [
      "Ignoring filter parameter without a field: filter[]",
      "Filter filter[age]: type=number operator=eq -> =",
      "Stopping filter parsing at filter[a][gt]: \"gt\" operator should not be used with null value"
    ] := by
  decide +kernel

end FilterQuery
