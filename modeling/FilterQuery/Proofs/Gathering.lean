/-
What the entries of a query string hold.

Gathering is a loop over pairs that changes the entries as it goes: a new key is given an entry
behind the others, and a key that came before has its texts put behind those that are there, as a
list from then on. Two facts carry everything, and both are kept by one more pair, whatever the
pairs before it: the keys are those of the pairs, in the order in which they first occur
(`keys_ofPairs`), and the value of a key is settled by its own occurrences (`lookup_ofPairs`). How
the occurrences of different keys are mixed makes no difference.

What a value holds is therefore a question about the occurrences of one key. They are cut at the
separator and put one after the other, so gluing the pieces gives the same text as gluing what was
cut (`glue_flatMap_pieces`): nothing is lost and nothing is added.
-/
import FilterQuery.Proofs.Params

set_option autoImplicit false

namespace FilterQuery

open FilterQuery.Text

/-! ## The value of a key -/

namespace ParamValue

/-- The texts between the separators of a text. -/
def cut (sep : Char) (text : String) : List String :=
  (pieces sep text.toList).map String.ofList

/-- A value as it is spelled has the pieces of its text, one or more. -/
theorem texts_ofText (sep : Char) (text : String) : (ofText sep text).texts = cut sep text := by
  unfold ofText
  split
  · rfl
  · next hfree => simp [texts, cut, pieces_of_not_mem hfree]

@[simp] theorem texts_many (texts : List String) : (many texts).texts = texts := rfl

/-- The value of a key with the given occurrences: one that occurs once has the value as spelled,
and one that occurs more than once has a list. -/
def gathered (sep : Char) : List String → Option ParamValue
  | [] => none
  | [text] => some (.ofText sep text)
  | first :: second :: rest => some (.many ((first :: second :: rest).flatMap (cut sep)))

/-- **One more occurrence**: the value is as spelled if it is the first, and otherwise its texts are
put behind those that are there. -/
theorem gathered_append_singleton (sep : Char) (texts : List String) (text : String) :
    gathered sep (texts ++ [text])
      = some ((gathered sep texts).elim (.ofText sep text) (·.append (.ofText sep text))) := by
  rcases texts with _ | ⟨first, _ | ⟨second, rest⟩⟩
  · rfl
  · -- the first value becomes a list, whether it was one or not
    simp [gathered, append, texts_ofText]
  · simp [gathered, append, texts_ofText]

/-- Whatever the value, its texts are the pieces of the occurrences, in order. -/
theorem texts_of_gathered {sep : Char} {texts : List String} {value : ParamValue}
    (hvalue : gathered sep texts = some value) : value.texts = texts.flatMap (cut sep) := by
  rcases texts with _ | ⟨first, _ | ⟨second, rest⟩⟩
  · cases hvalue
  · rw [gathered, Option.some.injEq] at hvalue
    rw [← hvalue, texts_ofText, List.flatMap_singleton]
  · rw [gathered, Option.some.injEq] at hvalue
    rw [← hvalue, texts_many]

/-- **A single text is the only occurrence**, and holds no separator. -/
theorem gathered_eq_one_iff {sep : Char} {texts : List String} {text : String} :
    gathered sep texts = some (.one text) ↔ texts = [text] ∧ sep ∉ text.toList := by
  rcases texts with _ | ⟨first, _ | ⟨second, rest⟩⟩
  · simp [gathered]
  · by_cases hsep : sep ∈ first.toList
    · -- cut at the separator, the value is a list
      simp only [gathered, ofText, if_pos hsep, Option.some.injEq, reduceCtorEq, List.cons.injEq,
        and_true, false_iff, not_and, not_not]
      rintro rfl
      exact hsep
    · simp only [gathered, ofText, if_neg hsep, Option.some.injEq, one.injEq, List.cons.injEq,
        and_true]
      constructor
      · rintro rfl
        exact ⟨rfl, hsep⟩
      · exact And.left
  · simp [gathered]

/-- **A list has whatever occurs otherwise**, piece by piece. -/
theorem gathered_eq_many_iff {sep : Char} {texts pieces : List String} :
    gathered sep texts = some (.many pieces) ↔
      texts ≠ [] ∧ (∀ text, texts = [text] → sep ∈ text.toList) ∧
        pieces = texts.flatMap (cut sep) := by
  constructor
  · intro h
    refine ⟨?_, ?_, texts_of_gathered h⟩
    · rintro rfl
      cases h
    · rintro text rfl
      by_contra hsep
      rw [gathered_eq_one_iff.2 ⟨rfl, hsep⟩] at h
      cases h
  · rintro ⟨hne, hone, rfl⟩
    rcases texts with _ | ⟨first, _ | ⟨second, rest⟩⟩
    · exact absurd rfl hne
    · rw [gathered, ofText, if_pos (hone first rfl), List.flatMap_singleton, cut]
    · rfl

end ParamValue

namespace Params

/-! ## The invariant of gathering -/

/-- The texts that a key has among pairs, as spelled, in order of occurrence. -/
def occurrences (pairs : List (String × String)) (key : String) : List String :=
  (pairs.filter fun pair => pair.1 = key).map Prod.snd

theorem occurrences_append_singleton (pairs : List (String × String)) (pair : String × String)
    (key : String) : occurrences (pairs ++ [pair]) key
      = if pair.1 = key then occurrences pairs key ++ [pair.2] else occurrences pairs key := by
  unfold occurrences
  rw [List.filter_append, List.map_append]
  by_cases hkey : pair.1 = key <;> simp [hkey]

/-- The entry in front is not the one of another key. -/
theorem lookup_cons_of_ne {key other : String} (hne : other ≠ key) (value : ParamValue)
    (rest : Params) : List.lookup other ((key, value) :: rest) = List.lookup other rest := by
  rw [List.lookup_cons, beq_false_of_ne hne]

/-- **Adding an occurrence changes the value of its key and of no other.** -/
theorem lookup_add (params : Params) (key : String) (value : ParamValue) (other : String) :
    (params.add key value).lookup other
      = if other = key then some ((params.lookup key).elim value (·.append value))
        else params.lookup other := by
  induction params with
  | nil =>
      by_cases hother : other = key
      · rw [add, hother, List.lookup_cons_self, if_pos rfl, List.lookup_nil, Option.elim_none]
      · rw [add, lookup_cons_of_ne hother, if_neg hother]
  | cons entry rest ih =>
      obtain ⟨front, stored⟩ := entry
      by_cases hfront : front = key
      · -- the entry of the key is in front, and what is behind it stays as it is
        subst hfront
        rw [add, if_pos rfl]
        by_cases hother : other = front
        · rw [hother, List.lookup_cons_self, List.lookup_cons_self, if_pos rfl, Option.elim_some]
        · rw [lookup_cons_of_ne hother, lookup_cons_of_ne hother, if_neg hother]
      · rw [add, if_neg hfront, lookup_cons_of_ne (Ne.symm hfront)]
        by_cases hother : other = front
        · rw [hother, List.lookup_cons_self, List.lookup_cons_self, if_neg hfront]
        · rw [lookup_cons_of_ne hother, lookup_cons_of_ne hother, ih]

/-- **The value of a key is settled by its occurrences.** The induction is on the pairs from the
right, so the step is one turn of the loop. -/
theorem lookup_ofPairs (sep : Char) (pairs : List (String × String)) (key : String) :
    (ofPairs sep pairs).lookup key = ParamValue.gathered sep (occurrences pairs key) := by
  induction pairs using List.reverseRecOn with
  | nil => rfl
  | append_singleton pairs pair ih =>
      rw [ofPairs_append_singleton, lookup_add, occurrences_append_singleton]
      by_cases hkey : pair.1 = key
      · rw [if_pos hkey, if_pos hkey.symm, ParamValue.gathered_append_singleton, hkey, ih]
      · rw [if_neg hkey, if_neg (Ne.symm hkey), ih]

/-- **The keys are those of the pairs, in the order in which they first occur.** -/
theorem keys_ofPairs (sep : Char) (pairs : List (String × String)) :
    (ofPairs sep pairs).keys = (pairs.map Prod.fst).eraseDups := by
  induction pairs using List.reverseRecOn with
  | nil => rfl
  | append_singleton pairs pair ih =>
      rw [ofPairs_append_singleton, keys_add, List.map_append, List.eraseDups_append,
        List.map_singleton]
      by_cases hold : pair.1 ∈ (ofPairs sep pairs).keys
      · -- a key that came before is erased among those that come behind
        have hgone : [pair.1].removeAll (pairs.map Prod.fst) = [] := by
          simpa [List.removeAll] using mem_keys_ofPairs.1 hold
        rw [if_pos hold, hgone, List.eraseDups_nil, List.append_nil, ih]
      · have hstays : [pair.1].removeAll (pairs.map Prod.fst) = [pair.1] := by
          simpa [List.removeAll] using mt mem_keys_ofPairs.2 hold
        rw [if_neg hold, hstays, ih]
        rfl

/-! ## What the entries hold -/

/-- What entries have to do with the pairs that they were gathered from. -/
structure Gathers (sep : Char) (pairs : List (String × String)) (params : Params) : Prop where
  /-- Every key has one entry, and the entries stand in the order in which the keys first occur. -/
  keys_eq : params.keys = (pairs.map Prod.fst).eraseDups
  /-- A single text is the value of a key that occurs once, and with a text free of separators. -/
  lookup_one_iff : ∀ key text, params.lookup key = some (.one text) ↔
    occurrences pairs key = [text] ∧ sep ∉ text.toList
  /-- Every other key that occurs has a list: the pieces of its texts, in order of occurrence. -/
  lookup_many_iff : ∀ key texts, params.lookup key = some (.many texts) ↔
    occurrences pairs key ≠ [] ∧
      (∀ text, occurrences pairs key = [text] → sep ∈ text.toList) ∧
      texts = (occurrences pairs key).flatMap (ParamValue.cut sep)
  not_mem_texts : ∀ e ∈ params, ∀ t ∈ e.2.texts, sep ∉ t.toList
  texts_ne_nil : ∀ e ∈ params, e.2.texts ≠ []
  /-- Gluing the texts of a key gives what gluing its texts as spelled gives. -/
  glue_texts : ∀ e ∈ params, glue sep (e.2.texts.map String.toList)
    = glue sep ((occurrences pairs e.1).map String.toList)

/-- **Gathering loses nothing and adds nothing.** -/
theorem gathers_ofPairs (sep : Char) (pairs : List (String × String)) :
    Gathers sep pairs (ofPairs sep pairs) := by
  -- what is stored in an entry is what the occurrences of its key give
  have hstored : ∀ e ∈ ofPairs sep pairs,
      ParamValue.gathered sep (occurrences pairs e.1) = some e.2 := by
    intro e he
    rw [← lookup_ofPairs]
    exact lookup_of_mem (nodup_keys_ofPairs sep pairs) he
  refine {
    keys_eq := keys_ofPairs sep pairs
    lookup_one_iff := ?_
    lookup_many_iff := ?_
    not_mem_texts := ?_
    texts_ne_nil := ?_
    glue_texts := ?_ }
  · intro key text
    rw [lookup_ofPairs]
    exact ParamValue.gathered_eq_one_iff
  · intro key texts
    rw [lookup_ofPairs]
    exact ParamValue.gathered_eq_many_iff
  · intro e he
    exact not_mem_of_mem_ofPairs he
  · intro e he
    exact texts_ne_nil_of_mem_ofPairs he
  · intro e he
    have hpieces : e.2.texts.map String.toList
        = ((occurrences pairs e.1).map String.toList).flatMap (pieces sep) := by
      rw [ParamValue.texts_of_gathered (hstored e he), List.map_flatMap, List.flatMap_map]
      simp [ParamValue.cut, Function.comp_def]
    rw [hpieces, glue_flatMap_pieces]

/-- **The entries of a query string are its pairs, gathered by key.** -/
theorem gathers_ofQuery (settings : Settings) (query : String) :
    Gathers settings.separator (Query.pairs query) (ofQuery settings query) :=
  gathers_ofPairs settings.separator (Query.pairs query)

/-- Occurrences of other keys stand between, and a separator written in percent form is one. -/
example : ofQuery .standard "?a=1,2&b=3&a=&c=%2C"
    = [("a", .many ["1", "2", ""]), ("b", .one "3"), ("c", .many ["", ""])] := by
  decide +kernel

end Params

end FilterQuery
