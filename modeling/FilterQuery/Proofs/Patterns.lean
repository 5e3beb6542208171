/-
Patterns and the texts in them.

For a comparison by substring each value is stored between two wildcards, and writing has to find
the value again. All it sees is a text that may begin and end with the wildcard, and a wildcard is
any text: it may be empty, it may overlap itself, and the value may begin or end with it or with a
part of it. What decides is whether there are two wildcards that share no character. Then what is
between them is no matter of choice, because both are as long as the wildcard is
(`isWrapped_iff_test`, `stripWildcards_eq_iff`).

So a value is found whatever it is (`spellOperand_pattern_eq`), and a text that was not stored in
this way loses nothing: not a wildcard at one end only, and not a row of characters that is the
wildcard at both ends but too short for two of them.
-/
import FilterQuery.Predicate.Canonical

set_option autoImplicit false

namespace FilterQuery.Predicate

variable (settings : Settings)

/-! ## Texts between wildcards -/

/-- A text with a wildcard at either end. There has to be one, and the two share no character. -/
def IsWrapped (s : String) : Prop :=
  settings.wildcard ≠ "" ∧ ∃ inner, s = settings.wildcard ++ inner ++ settings.wildcard

/-- A list has another at both ends, apart from each other, when it begins with it, ends with it and
is long enough. -/
theorem exists_eq_append_append_iff {marker text : List Char} :
    (∃ inner, text = marker ++ inner ++ marker) ↔
      marker <+: text ∧ marker <:+ text ∧ 2 * marker.length ≤ text.length := by
  constructor
  · rintro ⟨inner, rfl⟩
    refine ⟨?_, List.suffix_append _ _, ?_⟩
    · rw [List.append_assoc]
      exact List.prefix_append _ _
    · rw [List.length_append, List.length_append]
      omega
  · rintro ⟨⟨behind, rfl⟩, hsuffix, hlength⟩
    -- What follows the first marker is long enough to hold the second one.
    have hle : marker.length ≤ behind.length := by
      rw [List.length_append] at hlength
      omega
    have hbehind : behind <:+ marker ++ behind := List.suffix_append marker behind
    obtain ⟨inner, rfl⟩ := List.suffix_of_suffix_length_le hsuffix hbehind hle
    exact ⟨inner, (List.append_assoc _ _ _).symm⟩

variable {settings} {s t : String}

theorem isWrapped_iff :
    IsWrapped settings s ↔ settings.wildcard ≠ "" ∧ settings.wildcard.toList <+: s.toList ∧
      settings.wildcard.toList <:+ s.toList ∧
      2 * settings.wildcard.toList.length ≤ s.toList.length := by
  have hlists : (∃ inner, s = settings.wildcard ++ inner ++ settings.wildcard) ↔
      ∃ inner, s.toList = settings.wildcard.toList ++ inner ++ settings.wildcard.toList := by
    constructor
    · rintro ⟨inner, rfl⟩
      exact ⟨inner.toList, by rw [String.toList_append, String.toList_append]⟩
    · rintro ⟨inner, hs⟩
      refine ⟨String.ofList inner, ?_⟩
      rw [← String.toList_inj, hs, String.toList_append, String.toList_append,
        String.toList_ofList]
  rw [IsWrapped, hlists, exists_eq_append_append_iff]

/-- Those texts are the ones that pass the test of stripping. -/
theorem isWrapped_iff_test :
    IsWrapped settings s ↔ (settings.wildcard.toList ≠ [] &&
      settings.wildcard.toList.isPrefixOf s.toList &&
      settings.wildcard.toList.isSuffixOf s.toList &&
      2 * settings.wildcard.toList.length ≤ s.toList.length) = true := by
  rw [isWrapped_iff, Ne, ← String.toList_eq_nil_iff]
  simp only [ne_eq, Bool.and_eq_true, decide_eq_true_eq, List.isPrefixOf_iff_prefix,
    List.isSuffixOf_iff_suffix, and_assoc]

/-- Wildcards that overlap are not a pair. -/
theorem not_isWrapped_of_length_lt (hlength : s.length < 2 * settings.wildcard.length) :
    ¬ IsWrapped settings s := by
  intro hs
  have hle := (isWrapped_iff.1 hs).2.2.2
  rw [String.length_toList, String.length_toList] at hle
  omega

/-- Neither is a wildcard at one end. -/
theorem not_isWrapped_of_one_sided
    (hends : ¬ (settings.wildcard.toList <+: s.toList ∧ settings.wildcard.toList <:+ s.toList)) :
    ¬ IsWrapped settings s := by
  intro hs
  obtain ⟨-, hbegin, hend, -⟩ := isWrapped_iff.1 hs
  exact hends ⟨hbegin, hend⟩

/-! ## Stripping -/

/-- What is left of a text without its wildcards: what is between them, or the whole text if it has
not two of them. -/
inductive Strips (settings : Settings) : String → String → Prop where
  | between (inner : String) (hwildcard : settings.wildcard ≠ "") :
    Strips settings (settings.wildcard ++ inner ++ settings.wildcard) inner
  | whole {s : String} (hs : ¬ IsWrapped settings s) : Strips settings s s

theorem stripWildcards_of_not_isWrapped (hs : ¬ IsWrapped settings s) :
    stripWildcards settings s = s := by
  rw [stripWildcards]
  exact if_neg (mt isWrapped_iff_test.2 hs)

/-- **A text between wildcards is written without them**, also when the wildcard is empty or occurs
in the text. -/
theorem stripWildcards_append (settings : Settings) (t : String) :
    stripWildcards settings (settings.wildcard ++ t ++ settings.wildcard) = t := by
  by_cases hempty : settings.wildcard = ""
  · -- An empty wildcard is not looked for, and there is nothing to take away.
    rw [stripWildcards_of_not_isWrapped fun hwrapped => hwrapped.1 hempty, hempty]
    simp
  · have hwrapped : IsWrapped settings (settings.wildcard ++ t ++ settings.wildcard) :=
      ⟨hempty, t, rfl⟩
    rw [stripWildcards]
    refine (if_pos (isWrapped_iff_test.1 hwrapped)).trans ?_
    -- The length of what is between is what two wildcards leave of the whole.
    have hlength : (settings.wildcard ++ t ++ settings.wildcard).toList.length
        - 2 * settings.wildcard.toList.length = t.toList.length := by
      rw [String.toList_append, String.toList_append, List.length_append, List.length_append]
      omega
    rw [hlength, String.toList_append, String.toList_append, List.append_assoc, List.drop_left,
      List.take_left, String.ofList_toList]

theorem strips_stripWildcards (settings : Settings) (s : String) :
    Strips settings s (stripWildcards settings s) := by
  by_cases hs : IsWrapped settings s
  · obtain ⟨hwildcard, inner, rfl⟩ := hs
    rw [stripWildcards_append]
    exact .between inner hwildcard
  · rw [stripWildcards_of_not_isWrapped hs]
    exact .whole hs

/-- **Stripping takes off two wildcards, or nothing.** -/
theorem stripWildcards_eq_iff : stripWildcards settings s = t ↔ Strips settings s t := by
  constructor
  · rintro rfl
    exact strips_stripWildcards settings s
  · intro hstrips
    cases hstrips with
    | between _ hwildcard => exact stripWildcards_append settings t
    | whole hs => exact stripWildcards_of_not_isWrapped hs

/-- A text is changed exactly when it has two wildcards to lose. -/
theorem stripWildcards_ne_self_iff : stripWildcards settings s ≠ s ↔ IsWrapped settings s := by
  constructor
  · intro hchanged
    by_cases hs : IsWrapped settings s
    · exact hs
    · exact absurd (stripWildcards_of_not_isWrapped hs) hchanged
  · rintro ⟨hwildcard, inner, hs⟩ hself
    -- The text would be as long as what is between its wildcards.
    have hinner : inner = s := by rw [← hself, hs, stripWildcards_append]
    have hlength := congrArg (fun r => r.toList.length) hs
    simp only [String.toList_append, List.length_append, hinner] at hlength
    have hempty : settings.wildcard.toList = [] := List.length_eq_zero_iff.1 (by omega)
    exact hwildcard (String.toList_eq_nil_iff.1 hempty)

/-! ## Stored and written -/

variable (settings)

/-- **A value that was made a pattern is written as a person reads it.** -/
theorem spellOperand_pattern_eq (value : Datum) :
    spellOperand settings .like (pattern settings value) = String.ofList value.plain := by
  have hpattern : spell settings (pattern settings value)
      = settings.wildcard ++ String.ofList value.plain ++ settings.wildcard := by
    rw [pattern, Datum.text, spell, Datum.plain, Scalar.plain, String.ofList_toList]
    · intro h
      cases h
  rw [spellOperand, if_pos rfl, hpattern, stripWildcards_append]

/-- A string that was made a pattern is written as itself. -/
theorem spellOperand_pattern (t : String) :
    spellOperand settings .like (pattern settings (.scalar (.text t))) = t := by
  rw [spellOperand_pattern_eq, Datum.plain, Scalar.plain, String.ofList_toList]

/-- **A comparison with patterns is written with the values they were made of.** -/
theorem parameters_like (field : String) (first : Datum) (rest : List Datum) :
    parameters settings (.comparison .like field (pattern settings first)
        (rest.map (pattern settings)))
      = [parameter settings [field, Comparison.like.token]
        (Text.glue settings.separator ((first :: rest).map Datum.plain))] := by
  have hwritten : ∀ value, (spellOperand settings .like (pattern settings value)).toList
      = value.plain := by
    intro value
    rw [spellOperand_pattern_eq, String.toList_ofList]
  rw [parameters, ← List.map_cons, List.map_map]
  simp only [Function.comp_def, hwritten]

/-- What patterns have to do with the values they are made of. -/
structure PatternsUndone : Prop where
  /-- A text that was made a pattern is written as itself, whatever it begins and ends with. -/
  spellOperand_text : ∀ t : String, spellOperand settings .like (pattern settings (.text t)) = t
  /-- Any other value is written as a person reads it. -/
  spellOperand_value : ∀ value : Datum,
    spellOperand settings .like (pattern settings value) = String.ofList value.plain
  /-- All values of a comparison by substring are made patterns. -/
  build_eq : ∀ (field : String) (first : Datum) (rest : List Datum),
    build settings field (.comparison .like) (first :: rest)
      = .ok (.comparison .like field (pattern settings first) (rest.map (pattern settings)))
  /-- And all of them are written in the parameter of the comparison. -/
  parameters_eq : ∀ (field : String) (first : Datum) (rest : List Datum),
    parameters settings (.comparison .like field (pattern settings first)
        (rest.map (pattern settings)))
      = [parameter settings [field, Comparison.like.token]
        (Text.glue settings.separator ((first :: rest).map Datum.plain))]
  /-- Of any text, two wildcards are taken off or nothing. -/
  stripWildcards_iff : ∀ s t : String, stripWildcards settings s = t ↔ Strips settings s t
  /-- It is changed only if there are two, and two that do not overlap. -/
  changed_iff : ∀ s : String, stripWildcards settings s ≠ s ↔ settings.wildcard ≠ "" ∧
    ∃ inner, s = settings.wildcard ++ inner ++ settings.wildcard
  /-- So wildcards that overlap stay. -/
  overlapping_kept : ∀ s : String, s.length < 2 * settings.wildcard.length →
    stripWildcards settings s = s
  /-- And so does a wildcard at one end only. -/
  one_sided_kept : ∀ s : String,
    ¬ (settings.wildcard.toList <+: s.toList ∧ settings.wildcard.toList <:+ s.toList) →
      stripWildcards settings s = s

/-- **Taking the wildcards off undoes putting them on, and does nothing else.** This is so under any
settings, whatever the wildcard is. -/
theorem stripWildcards_undoes_patterns : PatternsUndone settings where
  spellOperand_text := spellOperand_pattern settings
  spellOperand_value := spellOperand_pattern_eq settings
  build_eq _ _ _ := rfl
  parameters_eq := parameters_like settings
  stripWildcards_iff _ _ := stripWildcards_eq_iff
  changed_iff _ := stripWildcards_ne_self_iff
  overlapping_kept _ hlength :=
    stripWildcards_of_not_isWrapped (not_isWrapped_of_length_lt hlength)
  one_sided_kept _ hends := stripWildcards_of_not_isWrapped (not_isWrapped_of_one_sided hends)

-- a wildcard that overlaps itself: five characters hold it twice, but not side by side
example : ["ababa", "abaaba", "abaxaba", "abaxab"].map (stripWildcards { wildcard := "aba" })
    = ["ababa", "", "x", "abaxab"] := by
  decide

end FilterQuery.Predicate
