/-
Reading has an outcome for every query string, and what was read can be rendered.

Three walks over the same text have to agree for this. The kind of a value is found by one, its
number is read by another, and the number is written by a third, each with failures of its own: no
numeral, too many digits to read, too many digits to write. A text is a number for the first walk
only if the second can hold it (`Kind.exists_read`), and what it holds keeps to the limit of the
third (`Scalar.isWritable_of_isNumber`). Leading zeros are why the last step is not immediate: a
numeral may be longer than the integer it spells, never shorter.

Reading is in `Except Misuse`, so an outcome is a result to be shown and not a convention: every
request that reading makes of its parts is one of those that have an answer (`parseParams_eq`).

Rendering is another matter. Reading goes through a query string of any length in one loop, and the
chain that it gives is rendered by calls in one another, of which there are only so many. That is the
one thing that can still go wrong, and it does for a query string that is long enough
(`parse_numberedQuery_beyond_rendering`).
-/
import FilterQuery.Predicate.Rendering
import FilterQuery.Proofs.LongChain
import FilterQuery.Proofs.WellFormed

set_option autoImplicit false

namespace FilterQuery

/-! ## Values that can be written -/

/-- **A number that reading gives can be written.** -/
theorem Scalar.isWritable_of_isNumber {v : Scalar} (hv : v.IsNumber) : v.isWritable = true := by
  unfold isWritable
  split
  · next n => exact decide_eq_true (Kind.length_toDigits_le hv)
  · rfl

/-- Of the values of a kind only numbers are limited at all. -/
theorem Kind.isWritable_of_isValue {settings : Settings} {kind : Kind} {v : Scalar}
    (hv : kind.IsValue settings v) : v.isWritable = true := by
  rcases hv.cases with ⟨-, rfl, -⟩ | ⟨-, hnumber⟩ | ⟨t, rfl, -, -⟩
  · rfl
  · exact Scalar.isWritable_of_isNumber hnumber
  · rfl

namespace Datum

theorem areWritable_iff {items : List Datum} :
    areWritable items = true ↔ ∀ d ∈ items, d.isWritable = true := by
  induction items with
  | nil => simp [areWritable]
  | cons d items ih => simp [areWritable, ih]

end Datum

/-! ## Predicates that can be written -/

namespace Predicate

theorem isWritable_of_leaves {p : Predicate} (hp : ∀ leaf ∈ p.leaves, leaf.isWritable = true) :
    p.isWritable = true := by
  induction p with
  | nullCheck check field => rfl
  | comparison op field first rest => exact hp _ (List.mem_singleton.2 rfl)
  | both left right ihleft ihright =>
      obtain ⟨hleft, hright⟩ := List.forall_mem_append.1 hp
      rw [isWritable, ihleft hleft, ihright hright]
      rfl

/-- A pattern is a text, whatever it was made of. -/
theorem isWritable_pattern (settings : Settings) (value : Datum) :
    (pattern settings value).isWritable = true := rfl

/-- A predicate on a field can be written if its values can. -/
theorem isWritable_onField {settings : Settings} {field : String} {relation : Relation}
    {first : Scalar} {rest : List Scalar} (hvalues : ∀ v ∈ first :: rest, v.isWritable = true) :
    (onField settings field relation first rest).isWritable = true := by
  unfold onField
  split
  · rfl
  · rw [isWritable, Datum.areWritable_iff, List.forall_mem_cons, List.forall_mem_map]
    exact ⟨isWritable_pattern settings _, fun v _ => isWritable_pattern settings _⟩
  · rw [isWritable, Datum.areWritable_iff, List.forall_mem_cons, List.forall_mem_map]
    exact List.forall_mem_cons.1 hvalues

/-- **A predicate that was read can be written.** -/
theorem isWritable_of_read {settings : Settings} {f : Filter} {p : Predicate} {note : Note}
    (hread : f.read settings = .ok (p, note)) : p.isWritable = true := by
  obtain ⟨c, rfl, -⟩ := Filter.read_eq_ok_iff.1 hread
  exact isWritable_onField fun v hv => Kind.isWritable_of_isValue (c.isValue v hv).1

theorem isWritable_of_parse {settings : Settings} {query : String} {params : Option Params}
    {earlier : List Problem} {outcome : Outcome} {notes : List Note} {t : Predicate}
    (hparse : parse settings query params earlier = .ok (outcome, notes))
    (ht : outcome.predicate = some t) : t.isWritable = true := by
  apply isWritable_of_leaves
  intro leaf hleaf
  obtain ⟨f, -, note, hread⟩ :=
    Filter.exists_filter_of_mem (forall₂_of_parse hparse ht).2 leaf hleaf
  exact isWritable_of_read hread

/-- What is built by hand may be beyond writing. -/
example : renderText callLimit (.comparison .equal "n" (.scalar (.int (10 ^ 4300))) [])
    = .error .tooManyDigits := by
  decide +kernel

end Predicate

/-! ## Reading has an outcome -/

/-- Reading never fails without problems from an earlier stage, and with some it has nothing to
do. -/
theorem exists_parse (settings : Settings) (query : String) (params : Option Params)
    (earlier : List Problem) :
    ∃ outcome notes, parse settings query params earlier = .ok (outcome, notes) := by
  cases earlier with
  | cons problem problems => exact ⟨_, _, rfl⟩
  | nil =>
      obtain ⟨batch, -, hresult⟩ := parseParams_eq settings query
        (params.getD (Params.ofQuery settings query))
      exact ⟨_, _, hresult⟩

/-- **Reading is total.** Whatever the settings, the query string, the parameters and the problems
from before, there is an outcome. A predicate in it can be rendered in every way and under any
settings, as long as there is room for the calls: one for each level, and for JSON text also one for
each level of the data. The step behind this: values that were found to share a kind are read as that
kind. -/
theorem parse_total (settings : Settings) (query : String) (params : Option Params)
    (earlier : List Problem) :
    (∃ outcome notes, parse settings query params earlier = .ok (outcome, notes) ∧
      ∀ t, outcome.predicate = some t → ∀ room : Nat,
        (∀ chosen : Settings, t.renderDatum chosen room
          = if t.depth < room then .ok (t.toDatum chosen) else .error .tooManyCalls) ∧
        (∀ chosen : Settings, t.renderQuery chosen room
          = if t.depth < room then .ok (t.toQuery chosen) else .error .tooManyCalls) ∧
        t.renderText room
          = if t.depth < room then
              if (t.toDatum .standard).nesting ≤ room then .ok t.text else .error .tooDeep
            else .error .tooManyCalls) ∧
    ∀ (texts : List String) (kind : Kind), texts ≠ [] →
      Kind.shared? settings texts = .ok (some kind) →
      ∃ values, kind.read texts = .ok values ∧ values.length = texts.length := by
  refine ⟨?_, ?_⟩
  · obtain ⟨outcome, notes, hparse⟩ := exists_parse settings query params earlier
    refine ⟨outcome, notes, hparse, ?_⟩
    intro t ht room
    have hwritable := Predicate.isWritable_of_parse hparse ht
    exact ⟨fun chosen => Predicate.renderDatum_eq chosen room t,
      fun chosen => Predicate.renderQuery_of_isWritable hwritable chosen room,
      Predicate.renderText_of_isWritable hwritable room⟩
  · intro texts kind hne hshared
    obtain ⟨values, hread⟩ := Kind.exists_read ((Kind.shared?_eq_some_iff hne).1 hshared)
    exact ⟨values, hread, Kind.length_of_read hread⟩

/-- Parameters given as such: an empty list, digits of another script, and a numeral beyond the
numbers that can be held. The predicate is one level deep, and its data are nested in five levels. -/
theorem parse_total_of_unusual_values :
    let params : Params := [("filter[none]", .many []), ("filter[age]", .many ["٣", " +18 "]),
      ("filter[size]", .one "1e400")]
    let t : Predicate := .both
      (.comparison .oneOf "age" (.scalar (.int 3)) [.scalar (.int 18)])
      (.comparison .like "size" (.text "%1e400%") [])
    (∃ outcome notes, parse .standard "" (some params) = .ok (outcome, notes) ∧
      outcome.predicate = some t ∧ t.renderDatum .standard 2 = .ok (t.toDatum .standard) ∧
      t.renderQuery .standard 2 = .ok (t.toQuery .standard) ∧
      t.renderText 5 = .ok t.text ∧ t.renderText 4 = .error .tooDeep) ∧
    Kind.shared? .standard ["٣", " +18 "] = .ok (some .number) ∧
    ∃ values, Kind.number.read ["٣", " +18 "] = .ok values ∧ values.length = 2 := by
  intro params t
  obtain ⟨⟨outcome, notes, hparse, hrender⟩, hread⟩ := parse_total .standard "" (some params) []
  have ht : outcome.predicate = some t := by
    have hvalue : ((parse .standard "" (some params)).toOption.bind fun o => o.1.predicate)
        = some t := by decide +kernel
    rw [hparse] at hvalue
    exact hvalue
  obtain ⟨hdatum, hquery, -⟩ := hrender t ht 2
  obtain ⟨-, -, htext⟩ := hrender t ht 5
  obtain ⟨-, -, hdeep⟩ := hrender t ht 4
  have hshared : Kind.shared? .standard ["٣", " +18 "] = .ok (some .number) :=
    eq_ok_of_toOption (by decide +kernel)
  exact ⟨⟨outcome, notes, hparse, ht, hdatum .standard, hquery .standard, htext, hdeep⟩, hshared,
    hread _ _ (by decide) hshared⟩

/-- A query string of a thousand and one checks, read without problems, and none of the renderings
of what was read has room enough. -/
theorem parse_numberedQuery_beyond_rendering :
    (∃ notes, parse .standard (numberedQuery 1000)
      = .ok ({ predicate := some (numberedChain 1000) }, notes)) ∧
    (numberedChain 1000).renderDatum .standard callLimit = .error .tooManyCalls ∧
    (numberedChain 1000).renderText callLimit = .error .tooManyCalls ∧
    (numberedChain 1000).renderQuery .standard callLimit = .error .tooManyCalls := by
  obtain ⟨notes, hparse⟩ := exists_parse_numberedQuery 1000
  have hwritable := Predicate.isWritable_of_parse hparse rfl
  have hdepth : ¬ (numberedChain 1000).depth + 1 ≤ callLimit := by
    rw [depth_numberedChain]
    decide
  refine ⟨⟨notes, hparse⟩, ?_, ?_, ?_⟩
  · rw [Predicate.renderDatum_eq, Unwritable.unlessFits, if_neg hdepth]
  · rw [Predicate.renderText_of_isWritable hwritable, if_neg hdepth]
  · rw [Predicate.renderQuery_of_isWritable hwritable, Unwritable.unlessFits, if_neg hdepth]

end FilterQuery
