/-
The pairs of a query string that was put together.

Two ways of putting one together matter. A client joins two query strings with an ampersand, and
then the pairs of the whole are those of the parts (`pairs_append`); the one condition is that the
second part does not begin with a question mark, because in front of a whole query string those are
dropped. A predicate spells its parameters and joins them, and then the pairs are exactly the ones
that were spelled (`pairs_intercalate_spelled`), whatever characters they hold: percent encoding
leaves nothing that could be taken for an ampersand, an equals sign or a question mark in front.
-/
import FilterQuery.Proofs.Pieces
import FilterQuery.Query

set_option autoImplicit false

namespace FilterQuery.Query

open FilterQuery.Text

/-! ## Joining query strings -/

/-- An ampersand ends the question marks in front, so they are dropped from the first part alone. -/
theorem dropWhile_append_ampersand (first second : List Char) :
    (first ++ '&' :: second).dropWhile (· == '?')
      = first.dropWhile (· == '?') ++ '&' :: second := by
  induction first with
  | nil => rfl
  | cons c first ih =>
      rw [List.cons_append, List.dropWhile_cons, List.dropWhile_cons, ih]
      split <;> rfl

/-- Nothing is dropped from a query string that does not begin with a question mark. -/
theorem parameters_of_head_ne {query : List Char} (hhead : query.head? ≠ some '?') :
    parameters query = (pieces '&' query).filter (· ≠ []) := by
  cases query with
  | nil => rfl
  | cons c rest =>
      have hc : ¬ (c == '?') = true := by
        rw [beq_iff_eq]
        rintro rfl
        exact hhead rfl
      rw [parameters, List.dropWhile_cons, if_neg hc]

theorem parameters_append {first second : List Char} (hhead : second.head? ≠ some '?') :
    parameters (first ++ '&' :: second) = parameters first ++ parameters second := by
  rw [parameters_of_head_ne hhead, parameters, parameters, dropWhile_append_ampersand,
    pieces_append_cons, List.filter_append]

/-- **The pairs of two query strings joined by an ampersand** are those of the first and then those
of the second. -/
theorem pairs_append {first second : String} (hhead : second.toList.head? ≠ some '?') :
    pairs (first ++ "&" ++ second) = pairs first ++ pairs second := by
  have hlist : (first ++ "&" ++ second).toList = first.toList ++ '&' :: second.toList := by
    simp [String.toList_append]
  rw [pairs, hlist, parameters_append hhead, List.map_append]
  rfl

/-! ## Spelling parameters -/

/-- A parameter with the given key and value, percent encoded. -/
def spelled (key value : String) : List Char :=
  Percent.encode key.toList ++ '=' :: Percent.encode value.toList

/-- What percent encoding never writes: the characters that have a meaning in a query string. -/
theorem not_mem_encode {c : Char} (hplain : Percent.isPlain c = false) (hc : c ≠ '%')
    (s : List Char) : c ∉ Percent.encode s := by
  intro hmem
  rcases Percent.isPlain_or_percent_of_mem_encode hmem with h | h
  · rw [hplain] at h
    cases h
  · exact hc h

/-- The first equals sign of a spelled parameter is the one between its key and its value. -/
theorem pair_spelled (key value : String) : pair (spelled key value) = (key, value) := by
  have hcut : cutFirst '=' (spelled key value)
      = (Percent.encode key.toList, Percent.encode value.toList) :=
    cutFirst_append_cons _ (not_mem_encode (by decide) (by decide) key.toList)
  rw [pair, hcut]
  simp only [Percent.decode_encode, String.ofList_toList]

theorem ampersand_not_mem_spelled (key value : String) : '&' ∉ spelled key value := by
  have hfree : ∀ s : List Char, '&' ∉ Percent.encode s :=
    not_mem_encode (by decide) (by decide)
  rw [spelled, List.mem_append, List.mem_cons]
  rintro (h | h | h)
  · exact hfree _ h
  · exact absurd h (by decide)
  · exact hfree _ h

theorem spelled_ne_nil (key value : String) : spelled key value ≠ [] := by
  simp [spelled]

/-- A spelled parameter begins with its key or, when that is empty, with the equals sign. -/
theorem head?_spelled (key value : String) : (spelled key value).head? ≠ some '?' := by
  rw [spelled, List.head?_append]
  intro h
  cases hkey : (Percent.encode key.toList).head? with
  | none => simp [hkey] at h
  | some c =>
      have hc : c = '?' := by simpa [hkey] using h
      have hmem : c ∈ Percent.encode key.toList := List.mem_of_mem_head? hkey
      rw [hc] at hmem
      exact not_mem_encode (by decide) (by decide) _ hmem

/-! ## Joining spelled parameters -/

theorem glue_eq_intercalate (sep : Char) (ps : List (List Char)) :
    glue sep ps = [sep].intercalate ps := by
  induction ps with
  | nil => rfl
  | cons p ps ih =>
      cases ps with
      | nil => simp [glue]
      | cons q rest =>
          rw [glue_cons_cons, ih, List.intercalate_cons_cons, List.append_assoc,
            List.singleton_append]

theorem parameters_glue {ps : List (List Char)} (hamp : ∀ p ∈ ps, '&' ∉ p)
    (hne : ∀ p ∈ ps, p ≠ []) (hhead : ∀ p ∈ ps, p.head? ≠ some '?') :
    parameters (glue '&' ps) = ps := by
  cases ps with
  | nil => rfl
  | cons p rest =>
      -- What stands in front of the whole is what stands in front of the first parameter.
      have hfront : (glue '&' (p :: rest)).head? = p.head? := by
        cases rest with
        | nil => rfl
        | cons q rest =>
            obtain ⟨c, tail, rfl⟩ := List.exists_cons_of_ne_nil (hne p List.mem_cons_self)
            rfl
      have hstart : (glue '&' (p :: rest)).head? ≠ some '?' := by
        rw [hfront]
        exact hhead p List.mem_cons_self
      rw [parameters_of_head_ne hstart, pieces_glue (by simp) hamp, List.filter_eq_self]
      intro q hq
      simpa using hne q hq

/-- Spelled parameters are joined by ampersands and nothing else. -/
theorem toList_intercalate_spelled (entries : List (String × String)) :
    (String.intercalate "&" (entries.map fun e => String.ofList (spelled e.1 e.2))).toList
      = glue '&' (entries.map fun e => spelled e.1 e.2) := by
  rw [glue_eq_intercalate, String.toList_intercalate, List.map_map]
  simp [Function.comp_def]

/-- **Spelled pairs are read back**, all of them and in order. -/
theorem pairs_intercalate_spelled (entries : List (String × String)) :
    pairs (String.intercalate "&" (entries.map fun e => String.ofList (spelled e.1 e.2)))
      = entries := by
  rw [pairs, toList_intercalate_spelled, parameters_glue]
  · rw [List.map_map]
    have hid : pair ∘ (fun e : String × String => spelled e.1 e.2) = id :=
      funext fun e => pair_spelled e.1 e.2
    rw [hid, List.map_id]
  · simp only [List.forall_mem_map]
    exact fun e _ => ampersand_not_mem_spelled e.1 e.2
  · simp only [List.forall_mem_map]
    exact fun e _ => spelled_ne_nil e.1 e.2
  · simp only [List.forall_mem_map]
    exact fun e _ => head?_spelled e.1 e.2

end FilterQuery.Query
