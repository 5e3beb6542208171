/-
The query string of a predicate, taken apart.

Fields, values, the keyword and the word for null are arbitrary texts, and any of them may hold the
signs that a query string is cut at. Percent encoding is what keeps them apart: it writes none of
those signs. So the ampersands of a written query string are the ones between its parameters, each
parameter has one equals sign, the one behind its key, and no text can begin a parameter of its own.

`WrittenAs` says what one condition is written as, and `WrittenIn` what that makes of the whole. The
brackets and the comma stay as they are, also inside of texts; they have a meaning only after the
query string was cut and decoded, and a key or a text that holds them is read back with them.
-/
import FilterQuery.Predicate.Rendering
import FilterQuery.Proofs.Writing

set_option autoImplicit false

namespace FilterQuery

open FilterQuery.Text

/-! ## The signs of a query string -/

namespace Query

/-- The characters that written query strings consist of: those that stand for themselves in every
part of an address, the brackets and the comma, and the three signs that encode and separate. -/
def isWritten (c : Char) : Bool :=
  c.isAlphanum || "-._~[],%=&".toList.contains c

theorem isWritten_of_mem_encode {c : Char} {s : List Char} (hc : c ∈ Percent.encode s) :
    isWritten c = true := by
  have hplain : ∀ d ∈ ['_', '.', '-', '~', '[', ']', ','], isWritten d = true :=
    List.all_eq_true.1 (by decide)
  rcases Percent.isPlain_or_percent_of_mem_encode hc with h | rfl
  · rw [Percent.isPlain, Bool.or_eq_true, List.contains_iff_mem] at h
    rcases h with halphanum | hmem
    · rw [isWritten, halphanum, Bool.true_or]
    · exact hplain c hmem
  · decide

theorem isWritten_of_mem_spelled {c : Char} {key value : String} (hc : c ∈ spelled key value) :
    isWritten c = true := by
  rw [spelled, List.mem_append, List.mem_cons] at hc
  rcases hc with h | rfl | h
  · exact isWritten_of_mem_encode h
  · decide
  · exact isWritten_of_mem_encode h

/-- The equals sign behind the key is the only one of a spelled parameter. -/
theorem count_spelled (key value : String) : (spelled key value).count '=' = 1 := by
  have hfree : ∀ s : List Char, (Percent.encode s).count '=' = 0 := by
    intro s
    exact List.count_eq_zero_of_not_mem (not_mem_encode (by decide) (by decide) s)
  rw [spelled, List.count_append, List.count_cons_self, hfree, hfree]

/-- Only the ampersands between the parameters are added to what the parameters hold. -/
theorem mem_or_eq_of_mem_glue {sep c : Char} {ps : List (List Char)} (hc : c ∈ glue sep ps) :
    c = sep ∨ ∃ p ∈ ps, c ∈ p := by
  induction ps with
  | nil => simp [glue] at hc
  | cons p ps ih =>
      cases ps with
      | nil => exact .inr ⟨p, List.mem_cons_self, hc⟩
      | cons q rest =>
          rw [glue_cons_cons, List.mem_append, List.mem_cons] at hc
          rcases hc with h | h | h
          · exact .inr ⟨p, List.mem_cons_self, h⟩
          · exact .inl h
          · rcases ih h with h | ⟨r, hr, h⟩
            · exact .inl h
            · exact .inr ⟨r, List.mem_cons_of_mem p hr, h⟩

end Query

/-! ## One condition -/

namespace Predicate

/-- The key and the text that a condition is written as. A check for null has no operator in its key,
and every other relation has its own; the text is the word for null, or what is compared with. -/
inductive WrittenAs (settings : Settings) : Predicate → String × String → Prop where
  | isNull (field : String) :
    WrittenAs settings (.nullCheck .isNull field)
      (BracketKey.write settings.keyword [field], settings.nullWord)
  | isNotNull (field : String) :
    WrittenAs settings (.nullCheck .isNotNull field)
      (BracketKey.write settings.keyword [field, "ne"], settings.nullWord)
  | comparison (op : Comparison) (field : String) (first : Datum) (rest : List Datum) :
    WrittenAs settings (.comparison op field first rest)
      (BracketKey.write settings.keyword [field, op.token],
        String.intercalate settings.separator.toString
          ((first :: rest).map (spellOperand settings op)))

variable (settings : Settings)

/-- Operands are put together by the separator. -/
theorem ofList_glue_spellOperand (op : Comparison) (values : List Datum) :
    String.ofList (glue settings.separator
        (values.map fun value => (spellOperand settings op value).toList))
      = String.intercalate settings.separator.toString (values.map (spellOperand settings op)) := by
  rw [← String.toList_inj, String.toList_ofList, Query.glue_eq_intercalate,
    String.toList_intercalate, List.map_map]
  simp [Function.comp_def]

/-- **The entries of a predicate are what its conditions are written as**, from left to right. -/
theorem forall₂_entries (p : Predicate) :
    List.Forall₂ (WrittenAs settings) p.leaves (p.entries settings) := by
  induction p with
  | nullCheck check field =>
      cases check with
      | isNull => exact .cons (.isNull field) .nil
      | isNotNull => exact .cons (.isNotNull field) .nil
  | comparison op field first rest =>
      rw [leaves, entries, ofList_glue_spellOperand]
      · exact .cons (.comparison op field first rest) .nil
      · intro left right h
        cases h
  | both left right ihleft ihright =>
      rw [leaves, entries]
      exact List.rel_append ihleft ihright

/-! ## The whole -/

/-- What a query string is when a predicate is written in it: signs that need no encoding, cut by the
ampersands into one parameter for each condition, each with a single equals sign, and read as the
keys and texts of the conditions. -/
structure WrittenIn (p : Predicate) (query : String) : Prop where
  isWritten : ∀ c ∈ query.toList, Query.isWritten c = true
  forall₂_pieces : List.Forall₂
    (fun leaf part => part.count '=' = 1 ∧ WrittenAs settings leaf (Query.pair part))
    p.leaves (pieces '&' query.toList)
  forall₂_pairs : List.Forall₂ (WrittenAs settings) p.leaves (Query.pairs query)

theorem writtenIn_toQuery (p : Predicate) : p.WrittenIn settings (p.toQuery settings) := by
  have hentries := forall₂_entries settings p
  have htext : (p.toQuery settings).toList
      = glue '&' ((p.entries settings).map fun e => Query.spelled e.1 e.2) := by
    rw [toQuery, parameters_eq_map_spelled, Query.toList_intercalate_spelled]
  -- A predicate has a condition, so there is a parameter and nothing is cut out of nothing.
  have hne : (p.entries settings).map (fun e => Query.spelled e.1 e.2) ≠ [] := by
    rw [Ne, List.map_eq_nil_iff, ← List.length_eq_zero_iff, length_entries]
    exact mt List.length_eq_zero_iff.1 p.leaves_ne_nil
  refine ⟨?_, ?_, ?_⟩
  · intro c hc
    rw [htext] at hc
    rcases Query.mem_or_eq_of_mem_glue hc with rfl | ⟨part, hpart, hc⟩
    · decide
    · obtain ⟨e, -, rfl⟩ := List.mem_map.1 hpart
      exact Query.isWritten_of_mem_spelled hc
  · rw [htext, pieces_glue hne, List.forall₂_map_right_iff]
    · refine hentries.imp ?_
      intro leaf e he
      rw [Query.pair_spelled]
      exact ⟨Query.count_spelled e.1 e.2, he⟩
    · intro part hpart
      obtain ⟨e, -, rfl⟩ := List.mem_map.1 hpart
      exact Query.ampersand_not_mem_spelled e.1 e.2
  · rw [pairs_toQuery]
    exact hentries

/-- **Writing loses nothing and lets nothing in.** A predicate of any shape whose integers can be
written is written as a query string of which `WrittenIn` holds, whatever its fields and values and
whatever the settings. -/
theorem exists_writeQuery_writtenIn {p : Predicate} (hp : p.isWritable = true) :
    ∃ query, p.writeQuery settings = .ok query ∧ p.WrittenIn settings query := by
  refine ⟨p.toQuery settings, ?_, writtenIn_toQuery settings p⟩
  rw [writeQuery, if_pos hp]

/-- Texts that hold every sign of a query string, in the keyword, the field and the values, and a
predicate that leans to the right. -/
theorem exists_writeQuery_writtenIn_of_signs :
    let settings : Settings := { keyword := "?a&b", nullWord := "=%00", wildcard := "%" }
    let p : Predicate := .both (.nullCheck .isNotNull "x]=1&?a&b[y")
      (.both (.comparison .like "é+\n" (.text "%a&b[c]=%26%") [])
        (.comparison .oneOf "" (.scalar .null) [.scalar (.bool true), .text "1,2", .text "#"]))
    p.isWritable = true ∧
      ∃ query, p.writeQuery settings = .ok query ∧ p.WrittenIn settings query := by
  intro settings p
  exact ⟨rfl, exists_writeQuery_writtenIn settings rfl⟩

end Predicate

end FilterQuery
