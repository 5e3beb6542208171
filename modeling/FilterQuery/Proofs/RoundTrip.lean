/-
Writing a predicate and reading it again.

A condition that was read from a filter is written as one parameter, and that parameter is a filter
again: another one perhaps, with the operator spelled out and numbers in their own spelling, but one
that is read as the same condition (`Filter.Course.read_rewritten`). The operator survives because
the relation in force suits the values and is translated into itself; the values survive
(`Filter.Course.Kept`) if each is written as one text of its kind, which unambiguous settings grant;
and a list stays a list or becomes a single value that every comparison of lists takes as well.

For several conditions one thing more is needed: their keys must differ, or reading would gather
their values under one key. Then a predicate of any shape is read as the chain of its leaves
(`exists_parse_toQuery`). Whether the keys differ is not a condition that reading grants: two
filters on one field may be spelled differently and still be written alike, such as `filter[a]=1`
and `filter[a][eq]=2`. It is the exact condition, for a key that is written twice is read as one
filter, and there is a leaf too few (`nodup_keys_of_same`).
-/
import FilterQuery.Proofs.Patterns
import FilterQuery.Proofs.Suits
import FilterQuery.Proofs.WellFormed
import FilterQuery.Proofs.Writing

set_option autoImplicit false

namespace FilterQuery

open FilterQuery.BracketKey

/-- What keeps numbers, null and lists apart when they are written: a number never holds the
separator, the word for null neither, and that word is no number. -/
structure Settings.Unambiguous (settings : Settings) : Prop where
  not_isNumberChar : ¬ Text.LowerCase.IsNumberChar settings.separator
  not_mem_nullWord : settings.separator ∉ settings.nullWord.toList
  ofChars?_nullWord : Numeral.ofChars? settings.nullWord.toList = none

theorem Settings.standard_unambiguous : Settings.standard.Unambiguous :=
  ⟨by decide, by decide, by decide⟩

/-- A condition read from a filter whose field is a segment and whose texts are free of the
separator. -/
def Predicate.IsRead (settings : Settings) (leaf : Predicate) : Prop :=
  ∃ f : Filter, ∃ note, f.read settings = .ok (leaf, note) ∧ IsSegment f.field ∧
    ∀ t ∈ f.value.texts, settings.separator ∉ t.toList

namespace Filter.Course

variable {settings : Settings} {f : Filter}

/-! ## The values of one condition -/

/-- The texts that the values of a filter are written as. -/
def texts (c : Course settings f) : List String :=
  (c.first :: c.rest).map fun v => Predicate.spell settings (.scalar v)

/-- The value that is read where those texts were written. -/
def value (c : Course settings f) : ParamValue :=
  .ofText settings.separator
    (String.ofList (Text.glue settings.separator (c.texts.map String.toList)))

theorem texts_ne_nil (c : Course settings f) : c.texts ≠ [] := List.cons_ne_nil _ _

/-- **What has to hold for the values to survive being written**: no text is cut at the separator,
and no number is taken for null. -/
def Kept (c : Course settings f) : Prop :=
  ∀ t ∈ c.texts, settings.separator ∉ t.toList ∧ Kind.ofValue settings t = c.kind

/-- The texts are read as the values. -/
theorem read_texts (c : Course settings f) : c.kind.read c.texts = .ok (c.first :: c.rest) :=
  Kind.read_spell fun v hv => (c.isValue v hv).1

/-- A value that is a text is one of the texts that were read. -/
theorem mem_texts_of_text (c : Course settings f) {t : String}
    (ht : .text t ∈ c.first :: c.rest) : t ∈ f.value.texts := by
  obtain ⟨hvalue, u, hu, hread⟩ := c.isValue _ ht
  cases hkind : c.kind with
  | null =>
      rw [hkind] at hread
      cases hread
  | number =>
      rw [hkind] at hvalue
      cases hvalue
  | date | string =>
      rw [hkind] at hread
      cases hread
      exact hu

/-- Unambiguous settings let all values survive whose texts were free of the separator. -/
theorem kept_of_unambiguous (hsettings : settings.Unambiguous) (c : Course settings f)
    (hfree : ∀ t ∈ f.value.texts, settings.separator ∉ t.toList) : c.Kept := by
  rw [Kept, texts, List.forall_mem_map]
  intro v hv
  have hvalue := (c.isValue v hv).1
  constructor
  · refine Kind.not_mem_spell hvalue hsettings.not_isNumberChar hsettings.not_mem_nullWord ?_
    rintro u rfl
    exact hfree u (c.mem_texts_of_text hv)
  · rw [Kind.ofValue_spell_iff hvalue]
    exact fun hnumber => Kind.not_isNullWord_spell hnumber hsettings.ofChars?_nullWord

theorem texts_value {c : Course settings f} (hkept : c.Kept) : c.value.texts = c.texts :=
  ParamValue.texts_ofText_glue c.texts_ne_nil fun t ht => (hkept t ht).1

/-- One value is written as one text. -/
theorem isList_value {c : Course settings f} (hkept : c.Kept) (hlist : f.value.isList = false) :
    c.value.isList = false := by
  rw [← Bool.not_eq_true, value, ParamValue.isList_ofText_glue c.texts_ne_nil
    fun t ht => (hkept t ht).1, texts, (c.exists_text_of_not_isList hlist).1]
  simp

/-- The relation in force suits what is read where the values were written. -/
theorem suits_value {c : Course settings f} (hkept : c.Kept) :
    c.relation.Suits c.kind c.value.isList := by
  have hsuits := c.suits
  cases hrelation : c.relation with
  | nullCheck check =>
      rw [hrelation] at hsuits
      exact ⟨hsuits.1, isList_value hkept hsuits.2⟩
  | comparison op =>
      rw [hrelation] at hsuits
      refine hsuits.imp_right ?_
      rintro ⟨hlist, hrest⟩
      exact ⟨isList_value hkept hlist, hrest⟩

/-! ## One condition -/

/-- A comparison is written under its own name, with the texts of its values. -/
theorem entries_comparison (c : Course settings f) {op : Comparison}
    (hrelation : c.relation = .comparison op) :
    c.predicate.entries settings = [(write settings.keyword [f.field, op.token],
      String.ofList (Text.glue settings.separator (c.texts.map String.toList)))] := by
  rw [predicate, hrelation]
  by_cases hop : op = .like
  · subst hop
    have hsuits := c.suits
    rw [hrelation] at hsuits
    have hstring := (hsuits.resolve_left Bool.false_ne_true).2.2 rfl
    -- A pattern is written as the string that it was made of.
    have hoperand : ∀ v ∈ c.first :: c.rest,
        Predicate.spellOperand settings .like (Predicate.pattern settings (.scalar v))
          = Predicate.spell settings (.scalar v) := by
      intro v hv
      have hvalue := (c.isValue v hv).1
      rw [hstring] at hvalue
      obtain ⟨t, rfl, -⟩ := hvalue
      rw [Predicate.spellOperand_pattern, Kind.spell_text]
    have htexts : (c.first :: c.rest).map (fun v =>
        (Predicate.spellOperand settings .like (Predicate.pattern settings (.scalar v))).toList)
          = c.texts.map String.toList := by
      rw [texts, List.map_map]
      exact List.map_congr_left fun v hv => congrArg String.toList (hoperand v hv)
    rw [← htexts, Predicate.onField, Predicate.entries]
    simp [Function.comp_def]
  · have hoperand : ∀ value, Predicate.spellOperand settings op value
        = Predicate.spell settings value := fun value => if_neg hop
    rw [Predicate.onField_of_ne_like hop, Predicate.entries, texts]
    simp [hoperand, Function.comp_def]

/-- **A condition that was read is written as one parameter**, with the operator of the relation in
force and the texts of its values. -/
theorem entries_predicate (c : Course settings f) :
    c.predicate.entries settings
      = [(write settings.keyword (f.field :: c.relation.operator?.toList),
          String.ofList (Text.glue settings.separator (c.texts.map String.toList)))] := by
  cases hrelation : c.relation with
  | comparison op => exact c.entries_comparison hrelation
  | nullCheck check =>
      have hsuits := c.suits
      rw [hrelation] at hsuits
      obtain ⟨hkind, hlist⟩ := hsuits
      -- What is checked for null is null by itself, and written as the word for it.
      have hfirst := (c.isValue c.first List.mem_cons_self).1
      rw [hkind] at hfirst
      have htexts : c.texts = [settings.nullWord] := by
        rw [texts, (c.exists_text_of_not_isList hlist).1, hfirst.1]
        rfl
      have hglue : String.ofList (Text.glue settings.separator (c.texts.map String.toList))
          = settings.nullWord := by
        rw [htexts]
        exact String.ofList_toList
      rw [predicate, hrelation, hglue]
      cases check <;> rfl

/-- The filter that the parameter of a condition is read as. -/
def rewritten (c : Course settings f) : Filter :=
  ⟨settings.keyword, f.field, c.relation.operator?, c.value⟩

theorem ofParam?_rewritten (c : Course settings f) (hfield : IsSegment f.field) :
    ofParam? settings (write settings.keyword (f.field :: c.relation.operator?.toList), c.value)
      = some c.rewritten := by
  have hne : c.value.texts ≠ [] := ParamValue.texts_ofText_ne_nil _ _
  exact ofParam?_key (f := c.rewritten) (rfl : settings.keyword = settings.keyword) hfield
    Relation.isSegment_operator hne

/-- **That parameter is a filter which is read as the same condition**, if the values survive. -/
theorem read_rewritten {c : Course settings f} (hkept : c.Kept) :
    ∃ note, c.rewritten.read settings = .ok (c.predicate, note) := by
  obtain ⟨op, hresolve, hmismatch, hrelation⟩ := exists_operator_of_suits (suits_value hkept)
  have htexts : c.rewritten.value.texts = c.texts := texts_value hkept
  have hkind : ∀ t ∈ c.rewritten.value.texts, Kind.ofValue settings t = c.kind := by
    rw [htexts]
    exact fun t ht => (hkept t ht).2
  have hread : c.kind.read c.rewritten.value.texts = .ok (c.first :: c.rest) := by
    rw [htexts]
    exact c.read_texts
  refine ⟨_, read_eq_ok_iff.2
    ⟨⟨c.kind, op, c.first, c.rest, hkind, hread, hresolve, hmismatch⟩, ?_, rfl⟩⟩
  exact congrArg (fun r => Predicate.onField settings f.field r c.first c.rest) hrelation

end Filter.Course

/-! ## Predicates of any shape -/

namespace Predicate

variable {settings : Settings}

/-- The filters that a predicate is written as, when its keys differ. -/
def written (settings : Settings) (p : Predicate) : List Filter :=
  Filter.ofParams settings
    ((p.entries settings).map fun e => (e.1, .ofText settings.separator e.2))

theorem written_both (left right : Predicate) :
    (both left right).written settings = left.written settings ++ right.written settings := by
  rw [written, entries, List.map_append, Filter.ofParams, List.filterMap_append]
  rfl

/-- A condition is written as one filter. -/
theorem written_course {f : Filter} (c : f.Course settings) (hfield : IsSegment f.field) :
    c.predicate.written settings = [c.rewritten] := by
  rw [written, c.entries_predicate, List.map_singleton, Filter.ofParams]
  exact List.filterMap_cons_some (c.ofParam?_rewritten hfield)

/-- A condition that was read is written as one filter, which is read as the condition. -/
theorem exists_written_of_isRead (hsettings : settings.Unambiguous) {leaf : Predicate}
    (hleaf : leaf.IsRead settings) :
    ∃ g note, leaf.written settings = [g] ∧ g.read settings = .ok (leaf, note) := by
  obtain ⟨f, note, hread, hfield, hfree⟩ := hleaf
  obtain ⟨c, rfl, -⟩ := Filter.read_eq_ok_iff.1 hread
  obtain ⟨note, hagain⟩ :=
    Filter.Course.read_rewritten (c.kept_of_unambiguous hsettings hfree)
  exact ⟨c.rewritten, note, written_course c hfield, hagain⟩

/-- **The filters that a predicate is written as are read as its leaves**, one by one. -/
theorem forall₂_written (hsettings : settings.Unambiguous) {t : Predicate}
    (hleaves : ∀ leaf ∈ t.leaves, leaf.IsRead settings) :
    List.Forall₂ (fun f p => ∃ note, f.read settings = .ok (p, note))
      (t.written settings) t.leaves := by
  have hone : ∀ leaf : Predicate, leaf.IsRead settings →
      List.Forall₂ (fun f p => ∃ note, f.read settings = .ok (p, note))
        (leaf.written settings) [leaf] := by
    intro leaf hleaf
    obtain ⟨g, note, hwritten, hread⟩ := exists_written_of_isRead hsettings hleaf
    rw [hwritten]
    exact .cons ⟨note, hread⟩ .nil
  induction t with
  | nullCheck check field => exact hone _ (hleaves _ List.mem_cons_self)
  | comparison op field first rest => exact hone _ (hleaves _ List.mem_cons_self)
  | both left right ihleft ihright =>
      obtain ⟨hleft, hright⟩ := List.forall_mem_append.1 hleaves
      rw [written_both]
      exact List.rel_append (ihleft hleft) (ihright hright)

/-- The filters of the query string that a predicate is written as, if its keys differ. -/
theorem ofParams_toQuery {t : Predicate} (hkeys : (t.keys settings).Nodup) :
    Filter.ofParams settings (Params.ofQuery settings (t.toQuery settings))
      = t.written settings := by
  rw [Params.ofQuery, pairs_toQuery, Params.ofPairs_of_nodup hkeys]
  rfl

/-- What is read where a predicate was written, if its keys differ, is the chain of what the filters
are read as that it was written as. -/
theorem exists_parse_of_forall₂_written {t : Predicate} (hkeys : (t.keys settings).Nodup)
    {leaves : List Predicate}
    (hread : List.Forall₂ (fun f p => ∃ note, f.read settings = .ok (p, note))
      (t.written settings) leaves) :
    ∃ notes, parse settings (t.toQuery settings)
      = .ok ({ predicate := (combine leaves).toOption, problems := [] }, notes) := by
  obtain ⟨batch, hbatch, hparse⟩ := parseParams_eq settings (t.toQuery settings)
    (Params.ofQuery settings (t.toQuery settings))
  obtain ⟨notes, hall⟩ := Filter.exists_readAll_of_forall₂ hread
  rw [ofParams_toQuery hkeys, hall] at hbatch
  cases hbatch
  exact ⟨_, hparse⟩

/-- **What is read where a predicate was written** is the chain of its leaves, if those were read
and their keys differ. -/
theorem exists_parse_toQuery (hsettings : settings.Unambiguous) {t : Predicate}
    (hleaves : ∀ leaf ∈ t.leaves, leaf.IsRead settings) (hkeys : (t.keys settings).Nodup) :
    ∃ notes, parse settings (t.toQuery settings)
      = .ok ({ predicate := (combine t.leaves).toOption, problems := [] }, notes) :=
  exists_parse_of_forall₂_written hkeys (forall₂_written hsettings hleaves)

/-- **A predicate of any shape is written as its chain**: read again, it is the chain of its leaves,
and so itself if it leans to the left. -/
theorem parse_toQuery (hsettings : settings.Unambiguous) {t : Predicate}
    (hleaves : ∀ leaf ∈ t.leaves, leaf.IsRead settings) (hkeys : (t.keys settings).Nodup) :
    ∃ u notes, combine t.leaves = .ok u ∧
      parse settings (t.toQuery settings) = .ok ({ predicate := some u, problems := [] }, notes) ∧
      (t.LeftLeaning → u = t) := by
  obtain ⟨u, hu⟩ := exists_combine t.leaves_ne_nil
  obtain ⟨notes, hparse⟩ := exists_parse_toQuery hsettings hleaves hkeys
  rw [hu] at hparse
  refine ⟨u, notes, hu, hparse, ?_⟩
  intro ht
  rw [combine_leaves ht] at hu
  exact (Except.ok.inj hu).symm

/-- Settings of which every one differs from the standard, and a predicate that leans to the right:
a string that looks like a pattern, a float, and a list of nulls. -/
theorem parse_toQuery_of_right_leaning :
    let settings : Settings :=
      { keyword := "q", nullWord := "nil", wildcard := "**", fieldMarker := "$", separator := '|' }
    let name : Predicate := .comparison .like "name" (.text "****Jo, Jr.****") []
    let tiny : Binary64 := .finite false ⟨1, by decide +kernel⟩
    let size : Predicate := .comparison .notEqual "size" (.scalar (.float tiny)) []
    let left : Predicate := .comparison .noneOf "left" .null [.null]
    ∃ u notes, combine (both name (both size left)).leaves = .ok u ∧
      parse settings ((both name (both size left)).toQuery settings)
        = .ok ({ predicate := some u, problems := [] }, notes) ∧
      ((both name (both size left)).LeftLeaning → u = both name (both size left)) := by
  intro settings name tiny size left
  have hname : name.IsRead settings :=
    ⟨⟨"q", "name", none, .one "**Jo, Jr.**"⟩, _,
      eq_ok_of_toOption (a := (name, .read "q[name]" .string (.comparison .like)
        (.comparison .like))) (by decide +kernel), by decide, by decide⟩
  have hsize : size.IsRead settings :=
    ⟨⟨"q", "size", some "NE", .one "5e-324"⟩, _,
      eq_ok_of_toOption (a := (size, .read "q[size][NE]" .number (.comparison .notEqual)
        (.comparison .notEqual))) (by decide +kernel), by decide, by decide⟩
  have hleft : left.IsRead settings :=
    ⟨⟨"q", "left", some "nin", .many ["nil", " NIL"]⟩, _,
      eq_ok_of_toOption (a := (left, .read "q[left][nin]" .null (.comparison .noneOf)
        (.comparison .noneOf))) (by decide +kernel), by decide, by decide⟩
  have hleaves : ∀ leaf ∈ [name, size, left], leaf.IsRead settings := by
    rw [List.forall_mem_cons, List.forall_mem_cons, List.forall_mem_singleton]
    exact ⟨hname, hsize, hleft⟩
  exact parse_toQuery ⟨by decide, by decide, by decide⟩ hleaves (by decide +kernel)

/-! ## Predicates that were read -/

/-- What is read from a query string was read from filters that can be written again. -/
theorem isRead_of_parse {query : String} {outcome : Outcome} {notes : List Note} {t : Predicate}
    (hparse : parse settings query = .ok (outcome, notes)) (ht : outcome.predicate = some t) :
    ∀ leaf ∈ t.leaves, leaf.IsRead settings := by
  intro leaf hleaf
  obtain ⟨f, hf, note, hread⟩ :=
    Filter.exists_filter_of_mem (forall₂_of_parse hparse ht).2 leaf hleaf
  obtain ⟨key, hkey⟩ := Filter.exists_mem_of_mem_ofParams hf
  exact ⟨f, note, hread, Filter.isSegment_field_of_mem_ofParams hf,
    Params.not_mem_of_mem_ofQuery hkey⟩

/-- The values of a condition that was read are scalars. -/
theorem plain_of_isRead {leaf : Predicate} (hleaf : leaf.IsRead settings) : leaf.Plain := by
  obtain ⟨f, note, hread, -, -⟩ := hleaf
  obtain ⟨c, rfl, -⟩ := Filter.read_eq_ok_iff.1 hread
  unfold Filter.Course.predicate onField
  split
  · trivial
  · rw [Plain, List.forall_mem_cons, List.forall_mem_map]
    exact ⟨⟨_, rfl⟩, fun v _ => ⟨_, rfl⟩⟩
  · rw [Plain, List.forall_mem_cons, List.forall_mem_map]
    exact ⟨⟨_, rfl⟩, fun v _ => ⟨_, rfl⟩⟩

/-- **A predicate with a repeated key is not read back**: its parameters are read as fewer filters
than it has leaves. -/
theorem nodup_keys_of_same {t u : Predicate} {notes : List Note}
    (hparse : parse settings (t.toQuery settings)
      = .ok ({ predicate := some u, problems := [] }, notes))
    (hsame : t.same u = true) : (t.keys settings).Nodup := by
  by_contra hkeys
  -- The entries of a repeated key become one parameter, a parameter is one filter at most, and the
  -- tree has a leaf for each filter.
  have hfilters : u.leaves.length
      = (Filter.ofParams settings (Params.ofQuery settings (t.toQuery settings))).length :=
    (forall₂_of_parse hparse rfl).2.length_eq.symm
  have hle : (Filter.ofParams settings (Params.ofQuery settings (t.toQuery settings))).length
      ≤ (Params.ofQuery settings (t.toQuery settings)).length := List.length_filterMap_le _ _
  have hlt : (Params.ofQuery settings (t.toQuery settings)).length < t.leaves.length := by
    rw [← length_entries settings t, Params.ofQuery, pairs_toQuery]
    exact Params.length_ofPairs_lt hkeys
  have hlength := length_leaves_of_same hsame
  omega

/-- **Which predicates are read back under the standard settings**: those whose keys differ, and
they are read as themselves. -/
theorem parse_toQuery_iff {query : String} {outcome : Outcome} {notes : List Note} {t : Predicate}
    (hparse : parse .standard query = .ok (outcome, notes)) (ht : outcome.predicate = some t) :
    ((t.keys .standard).Nodup ↔
      ∃ u notes', parse .standard (t.toQuery .standard)
        = .ok ({ predicate := some u, problems := [] }, notes') ∧ t.same u = true) ∧
    ((t.keys .standard).Nodup →
      ∃ notes', parse .standard (t.toQuery .standard)
        = .ok ({ predicate := some t, problems := [] }, notes')) := by
  have hleaves := isRead_of_parse hparse ht
  have hself : (t.keys .standard).Nodup → ∃ notes', parse .standard (t.toQuery .standard)
      = .ok ({ predicate := some t, problems := [] }, notes') := by
    intro hkeys
    obtain ⟨notes', hread⟩ := exists_parse_toQuery Settings.standard_unambiguous hleaves hkeys
    rw [combine_leaves (forall₂_of_parse hparse ht).1] at hread
    exact ⟨notes', hread⟩
  refine ⟨⟨?_, ?_⟩, hself⟩
  · intro hkeys
    obtain ⟨notes', hread⟩ := hself hkeys
    have hplain : t.Plain := plain_of_leaves fun leaf h => plain_of_isRead (hleaves leaf h)
    exact ⟨t, notes', hread, same_self hplain⟩
  · rintro ⟨u, notes', hread, hsame⟩
    exact nodup_keys_of_same hread hsame

/-- An operator in capitals with a blank and an empty group, which are written away. -/
theorem parse_toQuery_iff_of_spellings :
    let query := "?filter[age][][ GTE]=018&filter[name]=Jo&page=2"
    let t : Predicate := .both (.comparison .atLeast "age" (.scalar (.int 18)) [])
      (.comparison .like "name" (.text "%Jo%") [])
    let notes : List Note := [
      .read "filter[age][ GTE]" .number (.comparison .atLeast) (.comparison .atLeast),
      .read "filter[name]" .string (.comparison .like) (.comparison .like)]
    parse .standard query = .ok ({ predicate := some t }, notes) ∧
      ((t.keys .standard).Nodup ↔
        ∃ u notes', parse .standard (t.toQuery .standard)
          = .ok ({ predicate := some u, problems := [] }, notes') ∧ t.same u = true) ∧
      ((t.keys .standard).Nodup →
        ∃ notes', parse .standard (t.toQuery .standard)
          = .ok ({ predicate := some t, problems := [] }, notes')) := by
  intro query t notes
  have hparse : parse .standard query = .ok ({ predicate := some t }, notes) :=
    eq_ok_of_toOption (by decide +kernel)
  exact ⟨hparse, parse_toQuery_iff hparse rfl⟩

/-- Two conditions on one field, spelled with different keys and written with the same one: read
again, they are one filter with a list, which equality does not take. -/
theorem refused_of_written_alike :
    let t : Predicate := .both (.comparison .equal "a" (.scalar (.int 1)) [])
      (.comparison .equal "a" (.scalar (.int 2)) [])
    (parse .standard "filter[a]=1&filter[a][eq]=2").toOption.map (·.1)
        = some { predicate := some t } ∧
      t.toQuery .standard = "filter[a][eq]=1&filter[a][eq]=2" ∧
      (parse .standard (t.toQuery .standard)).toOption.map (·.1)
        = some { problems := [.ofRefusal (.listWithScalarOperator (.comparison .equal))
          (some "filter[a][eq]=1&filter[a][eq]=2") (some "filter[a][eq]")
          (.texts ["1", "2"])] } := by
  decide +kernel

end Predicate

end FilterQuery
