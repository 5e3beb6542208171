/-
Bracketed keys, written and read.

Reading a key is generous: both brackets end a segment and empty segments vanish. So a key does not
determine how it was spelled, but a written key determines what was written, provided each segment
is one that reading can give at all. `IsSegment` is that condition, and both directions stand here:
reading gives only such segments (`isSegment_of_mem_segments`), and it gives back those that were
written (`segments_write`). What reading drops are the brackets and no other character
(`flatten_segments`).
-/
import FilterQuery.BracketKey
import FilterQuery.Proofs.Pieces
import FilterQuery.Settings

set_option autoImplicit false

namespace FilterQuery.BracketKey

open FilterQuery.Text

/-- What can stand between brackets and be read as one segment: some text without brackets. -/
def IsSegment (s : String) : Prop :=
  s ≠ "" ∧ ∀ c ∈ s.toList, isBracket c = false

instance (s : String) : Decidable (IsSegment s) :=
  @instDecidableAnd _ _ inferInstance (List.decidableBAll _ _)

/-- Reading a key gives segments and nothing else. -/
theorem isSegment_of_mem_segments {key s : String} (hs : s ∈ segments key) : IsSegment s := by
  obtain ⟨p, hp, rfl⟩ := List.mem_map.1 hs
  obtain ⟨hpiece, hne⟩ := List.mem_filter.1 hp
  refine ⟨?_, fun c hc => ?_⟩
  · simpa [String.ofList_eq_empty_iff] using hne
  · rw [String.toList_ofList] at hc
    exact cut_eq_false_of_mem_piecesAt hpiece hc

/-- The segments of a key are made of all its characters but the brackets. -/
theorem flatten_segments (key : String) :
    ((segments key).map String.toList).flatten = key.toList.filter fun c => !isBracket c := by
  have hsegments : (segments key).map String.toList
      = (piecesAt isBracket key.toList).filter (· ≠ []) := by
    rw [segments, List.map_map]
    simp [Function.comp_def]
  rw [hsegments, List.flatten_filter_ne_nil, flatten_piecesAt]

/-! ## Reading a written key -/

theorem toList_groups_cons (s : String) (rest : List String) :
    (groups (s :: rest)).toList = '[' :: (s.toList ++ ']' :: (groups rest).toList) := by
  simp [groups]

/-- The pieces of a bracket-free text followed by groups. The text is quantified over because the
closing bracket of every group leaves an empty one in front of the groups that follow. -/
theorem filter_piecesAt_append_groups (s : List Char) (hs : ∀ c ∈ s, isBracket c = false)
    (others : List String) (hothers : ∀ o ∈ others, IsSegment o) :
    (piecesAt isBracket (s ++ (groups others).toList)).filter (· ≠ [])
      = [s].filter (· ≠ []) ++ others.map String.toList := by
  induction others generalizing s with
  | nil => simp [groups, piecesAt_of_forall hs]
  | cons o rest ih =>
      obtain ⟨hne, hfree⟩ := hothers o List.mem_cons_self
      have hrest := ih [] (by simp) (fun p hp => hothers p (List.mem_cons_of_mem o hp))
      rw [List.nil_append] at hrest
      have hkeep : [o.toList].filter (· ≠ []) = [o.toList] := by
        simp [String.toList_eq_nil_iff, hne]
      rw [toList_groups_cons, piecesAt_append_cons _ _ (by decide : isBracket '[' = true),
        piecesAt_append_cons _ _ (by decide : isBracket ']' = true), piecesAt_of_forall hs,
        piecesAt_of_forall hfree, List.filter_append, List.filter_append, hkeep, hrest]
      simp

/-- **A written key is read back**, segment by segment. -/
theorem segments_write {first : String} {others : List String} (hfirst : IsSegment first)
    (hothers : ∀ o ∈ others, IsSegment o) : segments (write first others) = first :: others := by
  have hkeep : [first.toList].filter (· ≠ []) = [first.toList] := by
    simp [String.toList_eq_nil_iff, hfirst.1]
  rw [segments, write, String.toList_append,
    filter_piecesAt_append_groups first.toList hfirst.2 others hothers, hkeep, List.map_append,
    List.map_map]
  simp [Function.comp_def, String.ofList_toList]

end FilterQuery.BracketKey

namespace FilterQuery

open BracketKey

/-- The keyword can be read as a segment. -/
theorem Settings.isSegment_keyword (settings : Settings) : IsSegment settings.keyword := by
  refine ⟨settings.keyword_ne_empty, fun c hc => ?_⟩
  rw [isBracket, Bool.or_eq_false_iff, beq_eq_false_iff_ne, beq_eq_false_iff_ne]
  constructor
  · rintro rfl
    exact settings.keyword_no_bracket.1 hc
  · rintro rfl
    exact settings.keyword_no_bracket.2 hc

end FilterQuery
