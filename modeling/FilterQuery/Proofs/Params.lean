/-
Entries gathered from pairs.

Gathering walks over the pairs and merges the values of a key that comes again. Adding a pair never
touches the entries of other keys in front of it (`append_add`), and a new key comes last
(`keys_add`). From these: pairs whose keys are disjoint from those before them are gathered on their
own (`ofPairs_append`), pairs with distinct keys are kept one by one (`ofPairs_of_nodup`), and a key
that is shared costs an entry (`length_ofPairs_lt`).

The rest is about the texts of a value: none holds the separator, and texts glued by the separator
are read as those texts.
-/
import FilterQuery.Params
import FilterQuery.Proofs.Pieces
import Mathlib.Data.List.Induction

set_option autoImplicit false

namespace FilterQuery

open FilterQuery.Text

/-! ## The texts of a value -/

namespace ParamValue

theorem not_mem_of_mem_texts_ofText {sep : Char} {text t : String}
    (ht : t ∈ (ofText sep text).texts) : sep ∉ t.toList := by
  unfold ofText at ht
  split at ht
  · obtain ⟨p, hp, rfl⟩ := List.mem_map.1 ht
    rw [String.toList_ofList]
    exact not_mem_of_mem_pieces hp
  · next hfree =>
      rw [List.mem_singleton.1 ht]
      exact hfree

/-- A text is read as one text at least. -/
theorem texts_ofText_ne_nil (sep : Char) (text : String) : (ofText sep text).texts ≠ [] := by
  unfold ofText
  split
  · rw [texts, Ne, List.map_eq_nil_iff]
    exact piecesAt_ne_nil _ _
  · exact List.cons_ne_nil _ _

/-- A value that is no list is a single text. -/
theorem length_texts_of_not_isList {value : ParamValue} (h : value.isList = false) :
    value.texts.length = 1 := by
  cases value with
  | one text => rfl
  | many texts => cases h

/-- A text is read as as many texts as it has pieces. -/
theorem length_texts_ofText (sep : Char) (text : String) :
    (ofText sep text).texts.length = (pieces sep text.toList).length := by
  unfold ofText
  split
  · rw [texts, List.length_map]
  · next hfree => rw [pieces_of_not_mem hfree, texts, List.length_singleton, List.length_singleton]

/-- **Only texts without the separator are read as many as were glued.** -/
theorem not_mem_of_length_texts_ofText_glue {sep : Char} {texts : List String} (hne : texts ≠ [])
    (hlength : (ofText sep (String.ofList (glue sep (texts.map String.toList)))).texts.length
      = texts.length) : ∀ t ∈ texts, sep ∉ t.toList := by
  have hpieces : (pieces sep (glue sep (texts.map String.toList))).length
      = (texts.map String.toList).length := by
    rw [List.length_map, ← hlength, length_texts_ofText, String.toList_ofList]
  have hfree : ∀ p ∈ texts.map String.toList, sep ∉ p :=
    not_mem_of_length_pieces_glue (by simpa using hne) hpieces
  rwa [List.forall_mem_map] at hfree

/-- What a text is read as when it was glued from texts without the separator: a single text alone,
or else the list of them. -/
theorem ofText_glue {sep : Char} {first : String} {rest : List String}
    (hsep : ∀ t ∈ first :: rest, sep ∉ t.toList) :
    ofText sep (String.ofList (glue sep ((first :: rest).map String.toList)))
      = if rest = [] then .one first else .many (first :: rest) := by
  have hfree : ∀ p ∈ (first :: rest).map String.toList, sep ∉ p := by
    simpa only [List.forall_mem_map] using hsep
  have hcut : pieces sep (glue sep ((first :: rest).map String.toList))
      = (first :: rest).map String.toList := pieces_glue (by simp) hfree
  cases rest with
  | nil =>
      rw [ofText, String.toList_ofList, if_neg, if_pos rfl]
      · exact congrArg ParamValue.one String.ofList_toList
      · exact hsep first List.mem_cons_self
  | cons second rest =>
      rw [ofText, String.toList_ofList, if_pos, hcut, if_neg (by simp), List.map_map]
      · simp [Function.comp_def]
      · exact mem_glue_cons_cons sep _ _ _

theorem texts_ofText_glue {sep : Char} {texts : List String} (hne : texts ≠ [])
    (hsep : ∀ t ∈ texts, sep ∉ t.toList) :
    (ofText sep (String.ofList (glue sep (texts.map String.toList)))).texts = texts := by
  obtain ⟨first, rest, rfl⟩ := List.exists_cons_of_ne_nil hne
  rw [ofText_glue hsep]
  split
  · next hrest => rw [hrest]; rfl
  · rfl

/-- Texts that were glued are read as a list when there are two of them or more. -/
theorem isList_ofText_glue {sep : Char} {texts : List String} (hne : texts ≠ [])
    (hsep : ∀ t ∈ texts, sep ∉ t.toList) :
    (ofText sep (String.ofList (glue sep (texts.map String.toList)))).isList = true
      ↔ texts.length ≠ 1 := by
  obtain ⟨first, rest, rfl⟩ := List.exists_cons_of_ne_nil hne
  rw [ofText_glue hsep]
  cases rest <;> simp [isList]

end ParamValue

namespace Params

/-! ## Adding an occurrence -/

/-- The keys of the entries, in order. -/
def keys (params : Params) : List String := params.map Prod.fst

/-- Adding goes past the entries of other keys and leaves them as they are. -/
theorem append_add {params : Params} {key : String} (rest : Params) (value : ParamValue)
    (hkey : key ∉ params.keys) : (params ++ rest).add key value = params ++ rest.add key value := by
  induction params with
  | nil => rfl
  | cons entry params ih =>
      obtain ⟨other, stored⟩ := entry
      rw [keys, List.map_cons, List.mem_cons, not_or] at hkey
      rw [List.cons_append, add, if_neg (Ne.symm hkey.1), ih hkey.2]
      rfl

/-- The keys after an occurrence was added: a new one comes last. -/
theorem keys_add (params : Params) (key : String) (value : ParamValue) :
    (params.add key value).keys
      = if key ∈ params.keys then params.keys else params.keys ++ [key] := by
  induction params with
  | nil => rfl
  | cons entry rest ih =>
      obtain ⟨other, stored⟩ := entry
      by_cases hkey : other = key
      · rw [add, if_pos hkey, if_pos (by simp [keys, hkey])]
        rfl
      · have hkeys : keys ((other, stored) :: add rest key value)
            = other :: (add rest key value).keys := rfl
        rw [add, if_neg hkey, hkeys, ih]
        by_cases hrest : key ∈ keys rest
        · rw [if_pos hrest, if_pos (by simpa [keys] using Or.inr hrest)]
          rfl
        · rw [if_neg hrest, if_neg]
          · rfl
          · simpa [keys, Ne.symm hkey] using hrest

/-- A property of single values that merging keeps holds of the entries it is added to. -/
theorem forall_mem_add {P : ParamValue → Prop} (happend : ∀ v w, P v → P w → P (v.append w))
    {params : Params} (key : String) {value : ParamValue} (hparams : ∀ e ∈ params, P e.2)
    (hvalue : P value) : ∀ e ∈ params.add key value, P e.2 := by
  induction params with
  | nil => simpa [add] using hvalue
  | cons entry rest ih =>
      obtain ⟨other, stored⟩ := entry
      have hstored : P stored := hparams (other, stored) List.mem_cons_self
      have hrest : ∀ e ∈ rest, P e.2 := fun e he => hparams e (List.mem_cons_of_mem _ he)
      rw [add]
      split
      · exact List.forall_mem_cons.2 ⟨happend stored value hstored hvalue, hrest⟩
      · exact List.forall_mem_cons.2 ⟨hstored, ih hrest⟩

/-! ## Gathering pairs -/

theorem ofPairs_append_singleton (sep : Char) (pairs : List (String × String))
    (pair : String × String) :
    ofPairs sep (pairs ++ [pair]) = (ofPairs sep pairs).add pair.1 (.ofText sep pair.2) := by
  rw [ofPairs, List.foldl_append]
  rfl

theorem mem_keys_ofPairs {sep : Char} {pairs : List (String × String)} {key : String} :
    key ∈ (ofPairs sep pairs).keys ↔ key ∈ pairs.map Prod.fst := by
  induction pairs using List.reverseRecOn with
  | nil => rfl
  | append_singleton pairs pair ih =>
      rw [ofPairs_append_singleton, keys_add, List.map_append, List.mem_append, ← ih]
      split
      · next hold =>
          constructor
          · exact Or.inl
          · rintro (h | h)
            · exact h
            · rw [List.mem_singleton.1 h]
              exact hold
      · rw [List.mem_append]
        rfl

/-- Every key has one entry. -/
theorem nodup_keys_ofPairs (sep : Char) (pairs : List (String × String)) :
    (ofPairs sep pairs).keys.Nodup := by
  induction pairs using List.reverseRecOn with
  | nil => exact List.nodup_nil
  | append_singleton pairs pair ih =>
      rw [ofPairs_append_singleton, keys_add]
      by_cases hold : pair.1 ∈ (ofPairs sep pairs).keys
      · rw [if_pos hold]
        exact ih
      · rw [if_neg hold, List.nodup_append]
        refine ⟨ih, by simp, ?_⟩
        intro key hkey other hother
        rw [List.mem_singleton.1 hother]
        rintro rfl
        exact hold hkey

theorem mem_of_lookup {α : Type} {entries : List (String × α)} {key : String} {value : α}
    (h : entries.lookup key = some value) : (key, value) ∈ entries := by
  obtain ⟨before, after, rfl, -⟩ := List.lookup_eq_some_iff.1 h
  exact List.mem_append_right before List.mem_cons_self

/-- Among distinct keys, every entry is the one stored under its key. -/
theorem lookup_of_mem {α : Type} {entries : List (String × α)}
    (hkeys : (entries.map Prod.fst).Nodup) {e : String × α} (he : e ∈ entries) :
    entries.lookup e.1 = some e.2 := by
  obtain ⟨before, after, rfl⟩ := List.append_of_mem he
  rw [List.map_append, List.nodup_append] at hkeys
  refine List.lookup_eq_some_iff.2 ⟨before, after, rfl, fun other hother => ?_⟩
  rw [bne_iff_ne]
  exact (hkeys.2.2 other.1 (List.mem_map_of_mem hother) e.1 List.mem_cons_self).symm

/-- **Pairs with other keys are gathered on their own**, behind the entries that are there. -/
theorem ofPairs_append {sep : Char} {first second : List (String × String)}
    (hkeys : ∀ key ∈ first.map Prod.fst, key ∉ second.map Prod.fst) :
    ofPairs sep (first ++ second) = ofPairs sep first ++ ofPairs sep second := by
  -- Gathering folds from the left, so what comes last is added to all that is there.
  induction second using List.reverseRecOn with
  | nil => rw [List.append_nil]; exact (List.append_nil _).symm
  | append_singleton second pair ih =>
      have hnew : pair.1 ∉ (ofPairs sep first).keys := by
        rw [mem_keys_ofPairs]
        intro hmem
        exact hkeys pair.1 hmem (by simp)
      have hold : ∀ key ∈ first.map Prod.fst, key ∉ second.map Prod.fst := by
        intro key hmem hsecond
        refine hkeys key hmem ?_
        rw [List.map_append]
        exact List.mem_append_left _ hsecond
      rw [← List.append_assoc, ofPairs_append_singleton, ofPairs_append_singleton, ih hold,
        append_add _ _ hnew]

/-- Pairs with distinct keys are kept one by one. -/
theorem ofPairs_of_nodup {sep : Char} {pairs : List (String × String)}
    (hkeys : (pairs.map Prod.fst).Nodup) :
    ofPairs sep pairs = pairs.map fun pair => (pair.1, .ofText sep pair.2) := by
  induction pairs with
  | nil => rfl
  | cons pair rest ih =>
      rw [List.map_cons, List.nodup_cons] at hkeys
      have hsplit : ofPairs sep ([pair] ++ rest) = ofPairs sep [pair] ++ ofPairs sep rest :=
        ofPairs_append (by simpa using hkeys.1)
      rw [← List.singleton_append, hsplit, ih hkeys.2]
      rfl

theorem length_ofPairs_le (sep : Char) (pairs : List (String × String)) :
    (ofPairs sep pairs).length ≤ pairs.length := by
  induction pairs using List.reverseRecOn with
  | nil => exact Nat.le_refl 0
  | append_singleton pairs pair ih =>
      have hlen := congrArg List.length
        (keys_add (ofPairs sep pairs) pair.1 (.ofText sep pair.2))
      rw [ofPairs_append_singleton, List.length_append, List.length_singleton]
      split at hlen <;> simp [keys] at hlen <;> omega

/-- A key that occurs twice costs an entry. -/
theorem length_ofPairs_lt {sep : Char} {pairs : List (String × String)}
    (hkeys : ¬ (pairs.map Prod.fst).Nodup) : (ofPairs sep pairs).length < pairs.length := by
  induction pairs using List.reverseRecOn with
  | nil => exact absurd List.nodup_nil hkeys
  | append_singleton pairs pair ih =>
      have hlen := congrArg List.length
        (keys_add (ofPairs sep pairs) pair.1 (.ofText sep pair.2))
      rw [ofPairs_append_singleton, List.length_append, List.length_singleton]
      have hle := length_ofPairs_le sep pairs
      split at hlen
      · simp [keys] at hlen
        omega
      · next hnew =>
          -- the last key is new, so the repeated one is among the pairs before it
          have hold : ¬ (pairs.map Prod.fst).Nodup := by
            intro hnodup
            refine hkeys ?_
            rw [List.map_append, List.nodup_append]
            refine ⟨hnodup, by simp, ?_⟩
            intro key hmem other hother
            rw [mem_keys_ofPairs] at hnew
            rw [List.map_singleton, List.mem_singleton] at hother
            rw [hother]
            rintro rfl
            exact hnew hmem
          have := ih hold
          simp [keys] at hlen
          omega

/-- A property of values that single texts have and merging keeps holds of every entry. -/
theorem forall_mem_ofPairs {P : ParamValue → Prop} {sep : Char}
    (hone : ∀ text, P (.ofText sep text)) (happend : ∀ v w, P v → P w → P (v.append w))
    (pairs : List (String × String)) : ∀ e ∈ ofPairs sep pairs, P e.2 := by
  induction pairs using List.reverseRecOn with
  | nil => simp [ofPairs]
  | append_singleton pairs pair ih =>
      rw [ofPairs_append_singleton]
      exact forall_mem_add happend pair.1 ih (hone pair.2)

/-- No text of an entry holds the separator. -/
theorem not_mem_of_mem_ofPairs {sep : Char} {pairs : List (String × String)}
    {e : String × ParamValue} (he : e ∈ ofPairs sep pairs) :
    ∀ t ∈ e.2.texts, sep ∉ t.toList := by
  refine forall_mem_ofPairs (P := fun v => ∀ t ∈ v.texts, sep ∉ t.toList) ?_ ?_ pairs e he
  · exact fun text t ht => ParamValue.not_mem_of_mem_texts_ofText ht
  · intro v w hv hw t ht
    rcases List.mem_append.1 ht with h | h
    · exact hv t h
    · exact hw t h

theorem not_mem_of_mem_ofQuery {settings : Settings} {query : String} {e : String × ParamValue}
    (he : e ∈ ofQuery settings query) : ∀ t ∈ e.2.texts, settings.separator ∉ t.toList :=
  not_mem_of_mem_ofPairs he

/-- Every entry has a text. -/
theorem texts_ne_nil_of_mem_ofPairs {sep : Char} {pairs : List (String × String)}
    {e : String × ParamValue} (he : e ∈ ofPairs sep pairs) : e.2.texts ≠ [] := by
  refine forall_mem_ofPairs (P := fun v => v.texts ≠ []) ?_ ?_ pairs e he
  · exact ParamValue.texts_ofText_ne_nil sep
  · intro v w hv _
    exact List.append_ne_nil_of_left_ne_nil hv _

end Params

end FilterQuery
