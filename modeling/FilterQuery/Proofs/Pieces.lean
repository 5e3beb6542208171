/-
Cutting a text that was put together.

`FilterQuery.Text.Pieces` says what the pieces of any text are. Here are the laws for texts of a
known build: cutting passes through an item cut at, a text without such an item is one piece, and
therefore pieces that were glued come apart again. Two readers rest on them: the one that cuts a
query string at its ampersands and the one that cuts a value at the separator.

The last section is about cutting once, which is how a key is told from its value.
-/
import FilterQuery.Text.Pieces

set_option autoImplicit false

namespace FilterQuery.Text

/-! ## Cutting everywhere -/

section Cutting

variable {α : Type} {cut : α → Bool}

/-- A text that ends at an item cut at contributes its pieces and no more: the text that follows is
cut on its own. -/
theorem piecesAt_append_cons (s rest : List α) {c : α} (hc : cut c = true) :
    piecesAt cut (s ++ c :: rest) = piecesAt cut s ++ piecesAt cut rest := by
  induction s with
  | nil => simp [piecesAt, hc]
  | cons d s ih =>
      obtain ⟨p, ps, hp⟩ := piecesAt_eq_cons cut s
      rw [List.cons_append, piecesAt, piecesAt, ih, hp]
      by_cases hd : cut d = true
      · rw [if_pos hd, if_pos hd]
        rfl
      · rw [if_neg hd, if_neg hd]
        rfl

/-- A text with nothing to cut at is its only piece. -/
theorem piecesAt_of_forall {s : List α} (hs : ∀ c ∈ s, cut c = false) :
    piecesAt cut s = [s] := by
  induction s with
  | nil => rfl
  | cons c s ih =>
      have hc : ¬ cut c = true := by simp [hs c List.mem_cons_self]
      rw [piecesAt, if_neg hc, ih (fun d hd => hs d (List.mem_cons_of_mem c hd)),
        List.modifyHead_cons]

end Cutting

theorem pieces_append_cons (sep : Char) (s rest : List Char) :
    pieces sep (s ++ sep :: rest) = pieces sep s ++ pieces sep rest :=
  piecesAt_append_cons s rest (beq_self_eq_true sep)

theorem pieces_of_not_mem {sep : Char} {s : List Char} (hs : sep ∉ s) : pieces sep s = [s] := by
  refine piecesAt_of_forall (fun c hc => ?_)
  rw [beq_eq_false_iff_ne]
  rintro rfl
  exact hs hc

/-- No piece of a text holds the separator. -/
theorem not_mem_of_mem_pieces {sep : Char} {s p : List Char} (hp : p ∈ pieces sep s) :
    sep ∉ p := by
  intro hsep
  have := cut_eq_false_of_mem_piecesAt hp hsep
  simp at this

/-! ## Gluing

`glue` is by recursion with a case for one piece alone, so a proof about it meets three cases; the
equation for two pieces and more is the one to rewrite with. -/

theorem glue_cons_cons (sep : Char) (p q : List Char) (rest : List (List Char)) :
    glue sep (p :: q :: rest) = p ++ sep :: glue sep (q :: rest) := rfl

/-- Two rows of pieces are glued one after the other, with a separator in between. -/
theorem glue_append (sep : Char) {ps qs : List (List Char)} (hps : ps ≠ []) (hqs : qs ≠ []) :
    glue sep (ps ++ qs) = glue sep ps ++ sep :: glue sep qs := by
  induction ps with
  | nil => exact absurd rfl hps
  | cons p ps ih =>
      by_cases hmore : ps = []
      · obtain ⟨q, rest, rfl⟩ := List.exists_cons_of_ne_nil hqs
        subst hmore
        rfl
      · obtain ⟨p', rest, rfl⟩ := List.exists_cons_of_ne_nil hmore
        rw [List.cons_append, List.cons_append, glue_cons_cons, glue_cons_cons,
          ← List.cons_append, ih hmore, List.append_assoc, List.cons_append]

/-- Cutting texts before they are glued makes no difference to the whole. -/
theorem glue_flatMap_pieces (sep : Char) (ps : List (List Char)) :
    glue sep (ps.flatMap (pieces sep)) = glue sep ps := by
  induction ps with
  | nil => rfl
  | cons p ps ih =>
      by_cases hmore : ps = []
      · subst hmore
        rw [List.flatMap_singleton, glue_pieces]
        rfl
      · obtain ⟨q, rest, rfl⟩ := List.exists_cons_of_ne_nil hmore
        -- each text has a piece, so there is something on both sides of the separator
        have hp : pieces sep p ≠ [] := piecesAt_ne_nil _ p
        have hrest : (q :: rest).flatMap (pieces sep) ≠ [] := by
          rw [List.flatMap_cons]
          exact List.append_ne_nil_of_left_ne_nil (piecesAt_ne_nil _ q) _
        rw [List.flatMap_cons, glue_append sep hp hrest, ih, glue_cons_cons, glue_pieces]

/-- Cutting what was glued cuts each piece on its own. -/
theorem pieces_glue_eq_flatMap {sep : Char} {ps : List (List Char)} (hne : ps ≠ []) :
    pieces sep (glue sep ps) = ps.flatMap (pieces sep) := by
  induction ps with
  | nil => exact absurd rfl hne
  | cons p ps ih =>
      cases ps with
      | nil => rw [List.flatMap_cons, List.flatMap_nil, List.append_nil, glue]
      | cons q rest =>
          rw [glue_cons_cons, pieces_append_cons, ih (List.cons_ne_nil q rest),
            ← List.flatMap_cons]

/-- **Glued pieces come apart again**, as long as there is one and none holds the separator. -/
theorem pieces_glue {sep : Char} {ps : List (List Char)} (hne : ps ≠ [])
    (hps : ∀ p ∈ ps, sep ∉ p) : pieces sep (glue sep ps) = ps := by
  have heach : ps.map (pieces sep) = ps.map fun p => [p] :=
    List.map_congr_left fun p hp => pieces_of_not_mem (hps p hp)
  rw [pieces_glue_eq_flatMap hne, List.flatMap_def, heach, ← List.flatMap_def,
    List.flatMap_singleton']

/-- A text that is its only piece does not hold the separator. -/
theorem not_mem_of_length_pieces {sep : Char} {s : List Char}
    (hlength : (pieces sep s).length = 1) : sep ∉ s := by
  obtain ⟨p, hp⟩ := List.length_eq_one_iff.1 hlength
  have hglue : p = s := by
    rw [← glue_pieces sep s, hp]
    rfl
  rw [← hglue]
  exact not_mem_of_mem_pieces (hp ▸ List.mem_singleton_self p)

/-- **Only pieces without the separator come apart as many as they were.** -/
theorem not_mem_of_length_pieces_glue {sep : Char} {ps : List (List Char)} (hne : ps ≠ [])
    (hlength : (pieces sep (glue sep ps)).length = ps.length) : ∀ p ∈ ps, sep ∉ p := by
  rw [pieces_glue_eq_flatMap hne] at hlength
  clear hne
  have hone : ∀ p : List Char, 1 ≤ (pieces sep p).length := fun p =>
    List.length_pos_iff.2 (piecesAt_ne_nil _ p)
  have hleast : ∀ qs : List (List Char), qs.length ≤ (qs.flatMap (pieces sep)).length := by
    intro qs
    induction qs with
    | nil => exact Nat.le_refl 0
    | cons q qs ih =>
        have := hone q
        rw [List.flatMap_cons, List.length_append, List.length_cons]
        omega
  induction ps with
  | nil => simp
  | cons p ps ih =>
      -- Each piece gives one at least, so none can give two.
      have hp := hone p
      have hps := hleast ps
      rw [List.flatMap_cons, List.length_append, List.length_cons] at hlength
      rw [List.forall_mem_cons]
      exact ⟨not_mem_of_length_pieces (by omega), ih (by omega)⟩

/-- Two pieces and more are glued by the separator, so it is there. -/
theorem mem_glue_cons_cons (sep : Char) (p q : List Char) (rest : List (List Char)) :
    sep ∈ glue sep (p :: q :: rest) := by
  rw [glue_cons_cons]
  exact List.mem_append_right p List.mem_cons_self

/-! ## Cutting once -/

/-- What stands before the first separator is cut off whole, whatever follows it. -/
theorem cutFirst_append_cons {sep : Char} {s : List Char} (rest : List Char) (hs : sep ∉ s) :
    cutFirst sep (s ++ sep :: rest) = (s, rest) := by
  have hpass : ∀ c ∈ s, (c != sep) = true := by
    intro c hc
    rw [bne_iff_ne]
    rintro rfl
    exact hs hc
  rw [cutFirst, List.takeWhile_append_of_pos hpass, List.dropWhile_append_of_pos hpass,
    List.takeWhile_cons_of_neg (by simp), List.dropWhile_cons_of_neg (by simp), List.append_nil,
    List.drop_succ_cons, List.drop_zero]

end FilterQuery.Text
