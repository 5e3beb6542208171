/-
The normal form of a key.

Reading is generous, so many keys have the same segments: brackets may be missing, doubled or
turned around. Writing is not, so among the keys with the same segments one is written, and that is
the normal form of them all. Two facts make it one. What is written is read back exactly when each
segment is one that reading can give (`segments_write_iff`), and reading gives no others. So
writing what was read changes a key but not its segments, and keys have the same normal form only
if they have the same segments (`normal?_eq_normal?_iff`).

A key of nothing but brackets has no segments, hence nothing to write and no normal form.
-/
import FilterQuery.Proofs.Runs

set_option autoImplicit false

namespace FilterQuery.BracketKey

variable {key other : String}

/-! ## Written keys -/

/-- **Segments are read back exactly when reading can give them.** -/
theorem segments_write_iff {first : String} {others : List String} :
    segments (write first others) = first :: others ↔ ∀ s ∈ first :: others, IsSegment s := by
  constructor
  · intro hread s hs
    rw [← hread] at hs
    exact isSegment_of_mem_segments hs
  · intro hall
    obtain ⟨hfirst, hothers⟩ := List.forall_mem_cons.1 hall
    exact segments_write hfirst hothers

/-! ## Normal forms -/

/-- The key that is written from the segments of a key, if it has any. -/
def normal? (key : String) : Option String :=
  match segments key with
  | [] => none
  | first :: others => some (write first others)

theorem normal?_of_segments_eq_nil (hsegments : segments key = []) : normal? key = none := by
  rw [normal?, hsegments]

theorem normal?_of_segments_eq_cons {first : String} {others : List String}
    (hsegments : segments key = first :: others) : normal? key = some (write first others) := by
  rw [normal?, hsegments]

theorem normal?_eq_none_iff : normal? key = none ↔ segments key = [] := by
  refine ⟨fun hnone => ?_, normal?_of_segments_eq_nil⟩
  cases hsegments : segments key with
  | nil => rfl
  | cons first others =>
      rw [normal?_of_segments_eq_cons hsegments] at hnone
      cases hnone

/-- **A key and its normal form have the same segments.** -/
theorem segments_of_normal? {normal : String} (hnormal : normal? key = some normal) :
    segments normal = segments key := by
  cases hsegments : segments key with
  | nil =>
      rw [normal?_of_segments_eq_nil hsegments] at hnormal
      cases hnormal
  | cons first others =>
      rw [normal?_of_segments_eq_cons hsegments] at hnormal
      obtain rfl := Option.some.inj hnormal
      apply segments_write_iff.2
      rw [← hsegments]
      exact fun s hs => isSegment_of_mem_segments hs

/-- **Keys have the same normal form exactly when they have the same segments.** -/
theorem normal?_eq_normal?_iff : normal? key = normal? other ↔ segments key = segments other := by
  constructor
  · -- The segments can be read off the normal form, if there is one.
    intro hsame
    cases hnormal : normal? key with
    | none =>
        have hother : normal? other = none := by rw [← hsame, hnormal]
        rw [normal?_eq_none_iff.1 hnormal, normal?_eq_none_iff.1 hother]
    | some normal =>
        have hother : normal? other = some normal := by rw [← hsame, hnormal]
        rw [← segments_of_normal? hnormal, segments_of_normal? hother]
  · intro hsame
    rw [normal?, normal?, hsame]

/-! ## Segments of any key -/

/-- What the segments of a key are, and what is kept when the key is written from them. -/
structure Segmented (key : String) : Prop where
  /-- The segments are the longest rows of characters other than brackets, from left to right. -/
  runs : Runs key.toList ((segments key).map String.toList)
  isSegment : ∀ s ∈ segments key, IsSegment s
  flatten_segments : ((segments key).map String.toList).flatten
    = key.toList.filter fun c => !isBracket c
  normal?_eq_none_iff : normal? key = none ↔ segments key = []
  segments_normal? : ∀ normal ∈ normal? key, segments normal = segments key
  normal?_eq_iff : ∀ other, normal? key = normal? other ↔ segments key = segments other

/-- **Reading and writing keys are inverse on normal forms.** What is written is read back
exactly when it can be, and of any key reading gives nothing else: rows of its characters, which
are those of its normal form, and that is the normal form of no key with other segments. -/
theorem segments_inverse_write :
    (∀ first others, segments (write first others) = first :: others ↔
      ∀ s ∈ first :: others, IsSegment s) ∧
    ∀ key, Segmented key := by
  refine ⟨fun _ _ => segments_write_iff, fun key => ?_⟩
  have hruns : (segments key).map String.toList = runs key.toList := by
    rw [segments_eq_map_runs, List.map_map]
    simp [Function.comp_def]
  exact {
    runs := runs_iff.2 hruns.symm
    isSegment := fun s hs => isSegment_of_mem_segments hs
    flatten_segments := flatten_segments key
    normal?_eq_none_iff := normal?_eq_none_iff
    segments_normal? := fun normal hnormal => segments_of_normal? hnormal
    normal?_eq_iff := fun other => normal?_eq_normal?_iff }

-- brackets that do not match, in front of a word and doubled
example : normal? "]a[b]]c" = some "a[b][c]" := by decide

end FilterQuery.BracketKey
