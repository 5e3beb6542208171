/-
Cutting a text at certain characters.

Query strings are nested cuts: parameters at `&`, a parameter at its first `=`, a key at its
brackets, a value at the separator. A cut text always has at least one piece, the pieces do not hold
the characters cut at, and together they hold all others in order; for a single character, joining
the pieces with it gives the text back. These laws stand below and are all that later modules use.
-/

set_option autoImplicit false

namespace FilterQuery.Text

/-! ## Cutting everywhere -/

/-- The pieces between the items to cut at, the empty ones included. -/
def piecesAt {α : Type} (cut : α → Bool) : List α → List (List α)
  | [] => [[]]
  | c :: rest =>
    if cut c then [] :: piecesAt cut rest else (piecesAt cut rest).modifyHead (c :: ·)

/-- The pieces between the occurrences of `sep`. -/
def pieces (sep : Char) (s : List Char) : List (List Char) :=
  piecesAt (· == sep) s

/-- The pieces with `sep` between each two of them. -/
def glue (sep : Char) : List (List Char) → List Char
  | [] => []
  | [piece] => piece
  | piece :: rest => piece ++ sep :: glue sep rest

theorem piecesAt_eq_cons {α : Type} (cut : α → Bool) (s : List α) :
    ∃ p ps, piecesAt cut s = p :: ps := by
  induction s with
  | nil => exact ⟨_, _, rfl⟩
  | cons c rest ih =>
    obtain ⟨p, ps, hp⟩ := ih
    by_cases h : cut c <;> simp [piecesAt, h, hp]

theorem piecesAt_ne_nil {α : Type} (cut : α → Bool) (s : List α) : piecesAt cut s ≠ [] := by
  obtain ⟨p, ps, hp⟩ := piecesAt_eq_cons cut s
  simp [hp]

/-- The pieces hold everything but the items cut at. -/
theorem flatten_piecesAt {α : Type} (cut : α → Bool) (s : List α) :
    (piecesAt cut s).flatten = s.filter (fun c => !cut c) := by
  induction s with
  | nil => rfl
  | cons c rest ih =>
    obtain ⟨p, ps, hp⟩ := piecesAt_eq_cons cut rest
    rw [hp] at ih
    by_cases h : cut c
    · simp_all [piecesAt]
    · simp_all [piecesAt, ← ih]

/-- No piece holds an item cut at. -/
theorem cut_eq_false_of_mem_piecesAt {α : Type} {cut : α → Bool} {s p : List α} {c : α}
    (hp : p ∈ piecesAt cut s) (hc : c ∈ p) : cut c = false := by
  have : c ∈ (piecesAt cut s).flatten := List.mem_flatten.2 ⟨p, hp, hc⟩
  rw [flatten_piecesAt, List.mem_filter] at this
  simpa using this.2

/-- Nothing is lost: gluing the pieces gives the text. -/
theorem glue_pieces (sep : Char) (s : List Char) : glue sep (pieces sep s) = s := by
  unfold pieces
  induction s with
  | nil => rfl
  | cons c rest ih =>
    obtain ⟨p, ps, hp⟩ := piecesAt_eq_cons (· == sep) rest
    rw [hp] at ih
    by_cases h : c = sep
    · simp [piecesAt, h, hp, glue, ih]
    · cases ps <;> simp_all [piecesAt, glue]

/-! ## Cutting once -/

/-- The text before the first `sep` and the text after it; a text without `sep` is cut at its
end. -/
def cutFirst (sep : Char) (s : List Char) : List Char × List Char :=
  (s.takeWhile (· != sep), (s.dropWhile (· != sep)).drop 1)

end FilterQuery.Text
