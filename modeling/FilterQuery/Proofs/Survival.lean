/-
Which conditions survive being written, whatever the settings.

Unambiguous settings let every condition survive (`Filter.Course.kept_of_unambiguous`), but they are
not all the settings that there are. The separator may be a digit, a point or a letter, and the word
for null may hold the separator or look like a number; validation has nothing against either. This
module finds out which conditions are read back then.

A text is never at risk: it is written as it was read, and it was read from a text without the
separator. Null is written as the word for it and a number in a spelling of its own, and neither is
what the query string had. So null is cut when its word holds the separator, and a number is cut
when its spelling does, or taken for null when its spelling is that word. `Settings.Keeps` says that
this does not happen, and nothing else can.

That these conditions are enough is `Filter.Course.read_rewritten` once more. That they are
necessary is the work here, and it needs no second look at how numbers are spelled. The condition
that comes back has as many values as the one that was written, so no text was cut
(`Filter.Course.length_texts_of_same`); and a number that was taken for null makes the whole
condition one about null, which equals no condition with a number
(`Filter.Course.kind_ne_null_of_same`).
-/
import FilterQuery.Proofs.RoundTrip

set_option autoImplicit false

namespace FilterQuery

/-! ## Values that survive -/

/-- Whether a value that was read can be read where it is written: a text can, null if the word for
it is not cut, and a number if its spelling is neither cut nor taken for null. -/
def Settings.Keeps (settings : Settings) : Datum → Prop
  | .scalar (.text _) => True
  | .scalar .null => settings.separator ∉ settings.nullWord.toList
  | value => settings.separator ∉ value.plain ∧
      Kind.isNullWord settings (String.ofList value.plain) = false

instance (settings : Settings) : DecidablePred settings.Keeps
  | .scalar (.text _) => inferInstanceAs (Decidable True)
  | .scalar .null => inferInstanceAs (Decidable (_ ∉ _))
  | .scalar (.bool _) | .scalar (.int _) | .scalar (.float _) | .list _ | .record _ =>
    inferInstanceAs (Decidable (_ ∧ _))

/-- What a predicate compares its fields with. A null check compares with null. -/
def Predicate.compared : Predicate → List Datum
  | .nullCheck _ _ => [.null]
  | .comparison _ _ first rest => first :: rest
  | .both left right => left.compared ++ right.compared

section

variable {settings : Settings}

theorem Settings.keeps_of_isNumber_iff {v : Scalar} (hv : v.IsNumber) :
    settings.Keeps (.scalar v) ↔
      settings.separator ∉ (Predicate.spell settings (.scalar v)).toList ∧
        ¬ Kind.isNullWord settings (Predicate.spell settings (.scalar v)) = true := by
  rw [Kind.spell_of_isNumber hv, String.toList_ofList, Bool.not_eq_true]
  cases v with
  | int n => rfl
  | float x => rfl
  | null => cases hv
  | bool value => cases hv
  | text t => cases hv

/-- **A value is kept exactly when the text it is written as is whole and of its kind.** -/
theorem Settings.keeps_iff {kind : Kind} {v : Scalar} (hv : kind.IsValue settings v)
    (htext : ∀ t, v = .text t → settings.separator ∉ t.toList) :
    settings.Keeps (.scalar v) ↔
      settings.separator ∉ (Predicate.spell settings (.scalar v)).toList ∧
        Kind.ofValue settings (Predicate.spell settings (.scalar v)) = kind := by
  rw [Kind.ofValue_spell_iff hv]
  rcases hv.cases with ⟨-, rfl, -⟩ | ⟨-, hnumber⟩ | ⟨t, rfl, -, -⟩
  · exact (and_iff_left fun h => h.elim).symm
  · rw [Settings.keeps_of_isNumber_iff hnumber]
    exact and_congr_right fun _ => ⟨fun h _ => h, fun h => h hnumber⟩
  · rw [Kind.spell_text]
    exact iff_of_true trivial ⟨htext t rfl, fun h => h.elim⟩

theorem Kind.eq_number_of_isValue {kind : Kind} {v : Scalar} (hv : kind.IsValue settings v)
    (hnumber : v.IsNumber) : kind = .number := by
  rcases hv.cases with ⟨-, rfl, -⟩ | ⟨hkind, -⟩ | ⟨t, rfl, -, -⟩
  · exact hnumber.elim
  · exact hkind
  · exact hnumber.elim

/-- A number is not null. -/
theorem Scalar.IsNumber.same_null {v : Scalar} (hv : v.IsNumber) : v.same .null = false := by
  cases v with
  | int n => rfl
  | float x => rfl
  | null => cases hv
  | bool value => cases hv
  | text t => cases hv

/-! ## Conditions that are equal -/

namespace Predicate

/-- A comparison does the same to each of its values, and nothing unless it is by substring. -/
theorem exists_onField_comparison (settings : Settings) (op : Comparison) :
    ∃ operand : Scalar → Datum, (op ≠ .like → operand = .scalar) ∧
      ∀ field first rest, onField settings field (.comparison op) first rest
        = .comparison op field (operand first) (rest.map operand) := by
  by_cases hop : op = .like
  · subst hop
    exact ⟨fun v => pattern settings (.scalar v), fun h => absurd rfl h, fun _ _ _ => rfl⟩
  · exact ⟨.scalar, fun _ => rfl, fun _ _ _ => onField_of_ne_like hop⟩

/-- **What equal conditions share**: the relation and, if it is a comparison, the number of the
values. The first values are equal, except that a substring comparison shows patterns instead. -/
theorem of_same_onField {field other : String} {r s : Relation} {v w : Scalar} {vs ws : List Scalar}
    (h : (onField settings field r v vs).same (onField settings other s w ws) = true) :
    r = s ∧ ∀ op, r = .comparison op → vs.length = ws.length ∧ (op ≠ .like → v.same w = true) := by
  cases r with
  | nullCheck check =>
      cases s with
      | nullCheck check' =>
          simp only [onField, same, Bool.and_eq_true, decide_eq_true_eq] at h
          refine ⟨congrArg Relation.nullCheck h.1, ?_⟩
          intro op hop
          cases hop
      | comparison op =>
          obtain ⟨operand, -, honField⟩ := exists_onField_comparison settings op
          rw [honField] at h
          cases h
  | comparison op =>
      obtain ⟨operand, hscalar, honField⟩ := exists_onField_comparison settings op
      rw [honField] at h
      cases s with
      | nullCheck check => cases h
      | comparison op' =>
          obtain ⟨operand', hscalar', honField'⟩ := exists_onField_comparison settings op'
          rw [honField'] at h
          simp only [same, Bool.and_eq_true, decide_eq_true_eq] at h
          obtain ⟨⟨rfl, -⟩, hitems⟩ := h
          refine ⟨rfl, ?_⟩
          intro op' hop'
          cases hop'
          constructor
          · have hlength := length_eq_of_sameItems hitems
            simp only [List.length_cons, List.length_map] at hlength
            omega
          · intro hop
            rw [hscalar hop, hscalar' hop, Datum.sameItems, Bool.and_eq_true, Datum.same] at hitems
            exact hitems.1

end Predicate

/-! ## One condition -/

namespace Filter.Course

variable {f : Filter}

theorem kept_iff (c : Course settings f)
    (hfree : ∀ t ∈ f.value.texts, settings.separator ∉ t.toList) :
    c.Kept ↔ ∀ v ∈ c.first :: c.rest, settings.Keeps (.scalar v) := by
  rw [Kept, texts, List.forall_mem_map]
  refine forall₂_congr fun v hv => ?_
  rw [Settings.keeps_iff (c.isValue v hv).1]
  rintro t rfl
  exact hfree t (c.mem_texts_of_text hv)

/-- A condition compares with the values found, except that patterns stand for strings; and all of
those are kept. -/
theorem forall_compared_iff (c : Course settings f) :
    (∀ v ∈ c.predicate.compared, settings.Keeps v) ↔
      ∀ v ∈ c.first :: c.rest, settings.Keeps (.scalar v) := by
  have hsuits := c.suits
  rw [predicate]
  cases hrelation : c.relation with
  | nullCheck check =>
      rw [hrelation] at hsuits
      obtain ⟨hkind, hlist⟩ := hsuits
      have hfirst := (c.isValue c.first List.mem_cons_self).1
      rw [hkind] at hfirst
      rw [(c.exists_text_of_not_isList hlist).1, hfirst.1, Predicate.onField, Predicate.compared,
        List.forall_mem_singleton, List.forall_mem_singleton]
      rfl
  | comparison op =>
      rw [hrelation] at hsuits
      by_cases hop : op = .like
      · subst hop
        have hstring := (hsuits.resolve_left Bool.false_ne_true).2.2 rfl
        have hvalues : ∀ v ∈ c.first :: c.rest, settings.Keeps (.scalar v) := by
          intro v hv
          have hvalue := (c.isValue v hv).1
          rw [hstring] at hvalue
          obtain ⟨t, rfl, -⟩ := hvalue
          trivial
        refine iff_of_true ?_ hvalues
        rw [Predicate.onField, Predicate.compared, List.forall_mem_cons, List.forall_mem_map]
        exact ⟨trivial, fun _ _ => trivial⟩
      · rw [Predicate.onField_of_ne_like hop, Predicate.compared, List.forall_mem_cons,
          List.forall_mem_map, List.forall_mem_cons]

/-! ## What reading back says about the values

Here `d` is the course of reading what the condition of `c` was written as. -/

/-- **No text was cut** if an equal condition came back: the texts are as many as there were. -/
theorem length_texts_of_same {c : Course settings f} (d : Course settings c.rewritten)
    (hsame : c.predicate.same d.predicate = true) :
    c.value.texts.length = c.texts.length := by
  obtain ⟨hrelation, hcomparison⟩ := Predicate.of_same_onField hsame
  have hsuits := c.suits
  have hsuits' := d.suits
  rw [← hrelation] at hsuits'
  rw [texts, List.length_map, List.length_cons]
  cases hc : c.relation with
  | nullCheck check =>
      rw [hc] at hsuits hsuits'
      have hone : c.value.texts.length = 1 := ParamValue.length_texts_of_not_isList hsuits'.2
      rw [hone, (c.exists_text_of_not_isList hsuits.2).1, List.length_nil]
  | comparison op =>
      have hread : (d.first :: d.rest).length = c.value.texts.length :=
        Kind.length_of_read d.read_eq
      rw [← hread, List.length_cons, (hcomparison op hc).1]

/-- **No number was taken for null** if an equal condition came back: that one would be about null
alone. -/
theorem kind_ne_null_of_same {c : Course settings f} (d : Course settings c.rewritten)
    (hsame : c.predicate.same d.predicate = true) (hkind : c.kind = .number) : d.kind ≠ .null := by
  intro hnull
  obtain ⟨-, hcomparison⟩ := Predicate.of_same_onField hsame
  have hsuits := c.suits
  rw [hkind] at hsuits
  have hnumber := (c.isValue c.first List.mem_cons_self).1
  rw [hkind] at hnumber
  have hfirst := (d.isValue d.first List.mem_cons_self).1
  rw [hnull] at hfirst
  cases hc : c.relation with
  | nullCheck check =>
      rw [hc] at hsuits
      cases hsuits.1
  | comparison op =>
      have hop : op ≠ .like := by
        rintro rfl
        rw [hc] at hsuits
        cases (hsuits.resolve_left Bool.false_ne_true).2.2 rfl
      have hfirsts := (hcomparison op hc).2 hop
      rw [hfirst.1, Scalar.IsNumber.same_null hnumber] at hfirsts
      cases hfirsts

/-- **Only values that survived come back equal.** -/
theorem kept_of_same {c : Course settings f} (d : Course settings c.rewritten)
    (hsame : c.predicate.same d.predicate = true) : c.Kept := by
  have hfree : ∀ t ∈ c.texts, settings.separator ∉ t.toList :=
    ParamValue.not_mem_of_length_texts_ofText_glue c.texts_ne_nil (length_texts_of_same d hsame)
  have htexts : c.value.texts = c.texts := ParamValue.texts_ofText_glue c.texts_ne_nil hfree
  have hkinds : ∀ t ∈ c.texts, Kind.ofValue settings t = d.kind := by
    intro t ht
    rw [← htexts] at ht
    exact d.ofValue_eq t ht
  intro t ht
  refine ⟨hfree t ht, ?_⟩
  obtain ⟨v, hv, rfl⟩ := List.mem_map.1 ht
  have hvalue := (c.isValue v hv).1
  rw [Kind.ofValue_spell_iff hvalue]
  intro hnumber hnullWord
  have hnull : d.kind = .null := by
    rw [← hkinds _ ht]
    exact Kind.ofValue_eq_null_iff.2 hnullWord
  exact kind_ne_null_of_same d hsame (Kind.eq_number_of_isValue hvalue hnumber) hnull

end Filter.Course

/-! ## Reading one parameter back -/

namespace Predicate

/-- One condition has one key. -/
theorem nodup_keys_course {f : Filter} (c : f.Course settings) :
    (c.predicate.keys settings).Nodup := by
  rw [keys, c.entries_predicate]
  exact List.nodup_singleton _

/-- What is read where one condition was written was read from the one filter there. -/
theorem exists_course_of_parse {f : Filter} (c : f.Course settings)
    (hfield : BracketKey.IsSegment f.field) {u : Predicate} {notes : List Note}
    (hparse : parse settings (c.predicate.toQuery settings)
      = .ok ({ predicate := some u, problems := [] }, notes)) :
    ∃ d : c.rewritten.Course settings, d.predicate = u := by
  obtain ⟨hlean, hread⟩ := forall₂_of_parse hparse rfl
  rw [Option.getD_none, ofParams_toQuery (nodup_keys_course c), written_course c hfield] at hread
  obtain ⟨p, ps, ⟨note, hp⟩, hps, hleaves⟩ := List.forall₂_cons_left_iff.1 hread
  rw [List.forall₂_nil_left_iff.1 hps] at hleaves
  -- A chain with one leaf is that leaf.
  have hu := combine_leaves hlean
  rw [hleaves] at hu
  obtain ⟨d, hd, -⟩ := Filter.read_eq_ok_iff.1 hp
  exact ⟨d, hd.trans (Except.ok.inj hu)⟩

/-- **Which conditions are read back**, under any settings: those that compare with values which are
kept, and they are read as themselves. -/
theorem parse_toQuery_iff_keeps {leaf : Predicate} (hleaf : leaf.IsRead settings) :
    ((∃ u notes, parse settings (leaf.toQuery settings)
        = .ok ({ predicate := some u, problems := [] }, notes) ∧ leaf.same u = true) ↔
      ∀ v ∈ leaf.compared, settings.Keeps v) ∧
    ((∀ v ∈ leaf.compared, settings.Keeps v) →
      ∃ notes, parse settings (leaf.toQuery settings)
        = .ok ({ predicate := some leaf, problems := [] }, notes)) := by
  have hplain := plain_of_isRead hleaf
  obtain ⟨f, note, hread, hfield, hfree⟩ := hleaf
  obtain ⟨c, rfl, -⟩ := Filter.read_eq_ok_iff.1 hread
  have hkept : c.Kept ↔ ∀ v ∈ c.predicate.compared, settings.Keeps v := by
    rw [c.kept_iff hfree, c.forall_compared_iff]
  rw [← hkept]
  have hself : c.Kept → ∃ notes, parse settings (c.predicate.toQuery settings)
      = .ok ({ predicate := some c.predicate, problems := [] }, notes) := by
    intro hc
    have hagain := Filter.Course.read_rewritten hc
    have hwritten : List.Forall₂ (fun f p => ∃ note, f.read settings = .ok (p, note))
        (c.predicate.written settings) [c.predicate] := by
      rw [written_course c hfield]
      exact .cons hagain .nil
    exact exists_parse_of_forall₂_written (nodup_keys_course c) hwritten
  refine ⟨⟨?_, ?_⟩, hself⟩
  · rintro ⟨u, notes, hparse, hsame⟩
    obtain ⟨d, rfl⟩ := exists_course_of_parse c hfield hparse
    exact Filter.Course.kept_of_same d hsame
  · intro hc
    obtain ⟨notes, hparse⟩ := hself hc
    exact ⟨c.predicate, notes, hparse, same_self hplain⟩

/-- A number whose spelling is the word for null, though `01` is not. -/
example : ¬ ({ nullWord := "1" } : Settings).Keeps (.scalar (.int 1)) := by
  decide +kernel

/-- A separator that some numbers hold, and two that do not. -/
theorem parse_toQuery_iff_keeps_of_hyphen :
    let settings : Settings := { separator := '-' }
    let leaf : Predicate := .comparison .oneOf "size"
      (.scalar (.float (Binary64.ofRatio false 1 2))) [.scalar (.int 7)]
    leaf.IsRead settings ∧
    ((∃ u notes, parse settings (leaf.toQuery settings)
        = .ok ({ predicate := some u, problems := [] }, notes) ∧ leaf.same u = true) ↔
      ∀ v ∈ leaf.compared, settings.Keeps v) ∧
    ((∀ v ∈ leaf.compared, settings.Keeps v) →
      ∃ notes, parse settings (leaf.toQuery settings)
        = .ok ({ predicate := some leaf, problems := [] }, notes)) ∧
    ∀ v ∈ leaf.compared, settings.Keeps v := by
  intro settings leaf
  have hleaf : leaf.IsRead settings :=
    ⟨⟨"filter", "size", none, .many [".5", "007"]⟩, _,
      eq_ok_of_toOption (a := (leaf, .read "filter[size]" .number (.comparison .oneOf)
        (.comparison .oneOf))) (by decide +kernel), by decide, by decide⟩
  have hkeeps : ∀ v ∈ leaf.compared, settings.Keeps v := by decide +kernel
  obtain ⟨hiff, hself⟩ := parse_toQuery_iff_keeps hleaf
  exact ⟨hleaf, hiff, hself, hkeeps⟩

/-- A number whose spelling holds the separator, though what it was read from did not: it is written
with a point, cut there, and refused as a list. -/
theorem refused_of_separator_in_spelling :
    let settings : Settings := { separator := '.' }
    let leaf : Predicate := .comparison .equal "a"
      (.scalar (.float (Binary64.ofRatio false 3 2))) []
    leaf.IsRead settings ∧
      (parse settings "filter[a]=15e-1").toOption.map (·.1) = some { predicate := some leaf } ∧
      leaf.toQuery settings = "filter[a][eq]=1.5" ∧
      (parse settings (leaf.toQuery settings)).toOption.map (·.1)
        = some { problems := [.ofRefusal (.listWithScalarOperator (.comparison .equal))
          (some "filter[a][eq]=1.5") (some "filter[a][eq]") (.texts ["1", "5"])] } := by
  intro settings leaf
  have hleaf : leaf.IsRead settings :=
    ⟨⟨"filter", "a", none, .one "15e-1"⟩, _,
      eq_ok_of_toOption (a := (leaf, .read "filter[a]" .number (.comparison .equal)
        (.comparison .equal))) (by decide +kernel), by decide, by decide⟩
  refine ⟨hleaf, ?_, ?_, ?_⟩ <;> decide +kernel

end Predicate

end

end FilterQuery
