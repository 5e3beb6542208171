/-
The cells of a terminal that a text takes.

Columns of a table line up only when widths are counted in cells and not in characters. Nor can the
characters be counted one by one: a joiner makes the character after it part of the one before, so
that a family or a profession is one pictogram, and the emoji selector turns some narrow characters
into wide pictograms. Two readings of a text follow. `width` counts its cells. `clusters` cuts it into
the parts that are shown as one, and a text is broken and cut between clusters only; where a wide
cluster would reach beyond the last cell, a blank takes its place.

Both count alike (`cellsOf_clusters`) unless the text begins with a joiner, which has nothing to join:
it hides the next character from the count, but leaves it a cluster of its own.
-/
import FilterQuery.Console.Cells.Table

set_option autoImplicit false

namespace FilterQuery.Console

/-! ## Counting -/

/-- The cells that a character takes by itself. -/
def charWidth (c : Char) : Nat :=
  if 0x20 ≤ c.toNat && c.toNat < 0x7f then 1
  else if Cells.narrowest.contains c then 0
  else if Cells.wide.contains c then 2
  else 1

namespace Cells

/-- The character that joins its neighbours. -/
def joiner : Char := '\u200d'

/-- The character that asks for a pictogram. -/
def emojiSelector : Char := '\ufe0f'

/-- The cells that a character gains when it becomes a pictogram. -/
def gain (base : Option Char) : Nat := if base.any widened.contains then 1 else 0

/-- The cells of a text after the character `base`, the last one that took a cell. If `joined`, the
first character of the text is part of what precedes. -/
def widthAfter : (joined : Bool) → (base : Option Char) → List Char → Nat
  | _, _, [] => 0
  | true, base, _ :: rest => widthAfter false base rest
  | false, base, c :: rest =>
    if c = joiner then widthAfter true base rest
    else if c = emojiSelector then gain base + widthAfter false none rest
    else if charWidth c = 0 then widthAfter false base rest
    else charWidth c + widthAfter false (some c) rest

end Cells

/-- The cells that a text takes. -/
def width (s : List Char) : Nat := Cells.widthAfter false none s

/-! ## Clusters -/

/-- Characters that are shown as one, and the cells they take. -/
structure Cluster where
  chars : List Char
  cells : Nat
deriving DecidableEq, Repr

namespace Cluster

/-- One character. -/
def single (c : Char) : Cluster := ⟨[c], charWidth c⟩

/-- The cluster with one more character, which widens it by `cells`. -/
def add (k : Cluster) (c : Char) (cells : Nat) : Cluster := ⟨k.chars ++ [c], k.cells + cells⟩

/-- The clusters of a text that continues the cluster `current`; the other arguments are those of
`Cells.widthAfter`. -/
def continued : (joined : Bool) → (base : Option Char) → (current : Cluster) → List Char →
    List Cluster
  | _, _, current, [] => [current]
  | true, base, current, c :: rest => continued false base (current.add c 0) rest
  | false, base, current, c :: rest =>
    if c = Cells.joiner then continued true base (current.add c 0) rest
    else if c = Cells.emojiSelector then
      continued false none (current.add c (Cells.gain base)) rest
    else if charWidth c = 0 then continued false base (current.add c 0) rest
    else current :: continued false (some c) (single c) rest

end Cluster

/-- The clusters of a text. A character that takes no cell belongs to the cluster before it, and only
at the beginning of the text is a cluster of its own. -/
def clusters : List Char → List Cluster
  | [] => []
  | c :: rest => Cluster.continued false (if charWidth c = 0 then none else some c) (.single c) rest

/-- The cells that some clusters take. -/
def cellsOf (ks : List Cluster) : Nat := ks.foldr (fun k cells => k.cells + cells) 0

theorem flatMap_chars_continued (joined : Bool) (base : Option Char) (k : Cluster) (s : List Char) :
    (Cluster.continued joined base k s).flatMap (·.chars) = k.chars ++ s := by
  fun_induction Cluster.continued joined base k s <;>
    simp_all [Cluster.add, Cluster.single]

/-- No character is lost in cutting a text into clusters. -/
theorem flatMap_chars_clusters (s : List Char) : (clusters s).flatMap (·.chars) = s := by
  cases s <;> simp [clusters, flatMap_chars_continued, Cluster.single]

theorem cellsOf_continued (joined : Bool) (base : Option Char) (k : Cluster) (s : List Char) :
    cellsOf (Cluster.continued joined base k s) = k.cells + Cells.widthAfter joined base s := by
  fun_induction Cluster.continued joined base k s <;>
    simp_all [cellsOf, Cells.widthAfter, Cluster.add, Cluster.single, Nat.add_assoc]

/-- The clusters of a text take as many cells as the text, unless it begins with a joiner. -/
theorem cellsOf_clusters {s : List Char} (h : s.head? ≠ some Cells.joiner) :
    cellsOf (clusters s) = width s := by
  cases s with
  | nil => rfl
  | cons c rest =>
    have hj : c ≠ Cells.joiner := by simpa using h
    simp only [clusters, cellsOf_continued, Cluster.single, width, Cells.widthAfter, hj, if_false]
    by_cases hs : c = Cells.emojiSelector
    · have hw : charWidth Cells.emojiSelector = 0 := by decide
      simp [hs, hw, Cells.gain]
    · by_cases hw : charWidth c = 0 <;> simp [hs, hw]

/-! ## Fitting -/

/-- Blanks. -/
def blanks (n : Nat) : List Char := List.replicate n ' '

/-- The text with blanks up to a width. A joiner at its end takes the first blank to itself, so what
is still missing then is added as well. -/
def padTo (cells : Nat) (s : List Char) : List Char :=
  let padded := s ++ blanks (cells - width s)
  padded ++ blanks (cells - width padded)

/-- Why a text cannot be cut to fewer cells than it takes. Both happen only to a text that begins with
joiners, whose clusters may take fewer cells than it does. -/
inductive CutFault where
  /-- None of its clusters takes a cell. -/
  | noCells
  /-- Its clusters do not take as many cells as are to be left. -/
  | tooFewCells
deriving DecidableEq, Repr

/-- The wording of a fault. -/
def CutFault.message : CutFault → String
  | .noCells => "division by zero"
  | .tooFewCells => "list index out of range"

/-- The beginning of a row of clusters that takes exactly `cells` cells, with a blank in place of a
cluster that only half fits. -/
def takeCells : (cells : Nat) → List Cluster → Except CutFault (List Char)
  | 0, [] => .ok []
  | _ + 1, [] => .error .tooFewCells
  | cells, k :: rest =>
    if k.cells ≤ cells then do return k.chars ++ (← takeCells (cells - k.cells) rest)
    else .ok (blanks cells)

/-- The text, which is wider, cut to exactly `cells` cells. -/
def cut (cells : Nat) (s : List Char) : Except CutFault (List Char) :=
  if cells = 0 then .ok []
  else if cellsOf (clusters s) = 0 then .error .noCells
  else takeCells cells (clusters s)

/-- Clusters that take more cells than are to be left can be cut. -/
theorem takeCells_isOk {cells : Nat} {ks : List Cluster} (h : cells ≤ cellsOf ks) :
    (takeCells cells ks).isOk := by
  induction ks generalizing cells with
  | nil =>
    obtain rfl : cells = 0 := by simpa [cellsOf] using h
    rfl
  | cons k rest ih =>
    by_cases hk : k.cells ≤ cells
    · have left : cells - k.cells ≤ cellsOf rest := by
        simp only [cellsOf, List.foldr_cons] at h ⊢
        omega
      obtain ⟨taken, ht⟩ : ∃ taken, takeCells (cells - k.cells) rest = .ok taken := by
        have := ih left
        cases ht : takeCells (cells - k.cells) rest with
        | error fault => simp [ht, Except.isOk, Except.toBool] at this
        | ok taken => exact ⟨taken, rfl⟩
      simp [takeCells, hk, ht, Except.isOk, Except.toBool, bind, Except.bind, pure, Except.pure]
    · simp [takeCells, hk, Except.isOk, Except.toBool]

/-- A text that does not begin with a joiner can be cut to fewer cells than it takes. -/
theorem cut_isOk {cells : Nat} {s : List Char} (begins : s.head? ≠ some Cells.joiner)
    (wider : cells < width s) : (cut cells s).isOk := by
  have same := cellsOf_clusters begins
  by_cases h : cells = 0
  · simp [cut, h, Except.isOk, Except.toBool]
  · have some : cellsOf (clusters s) ≠ 0 := by omega
    simpa [cut, h, some] using takeCells_isOk (by omega : cells ≤ cellsOf (clusters s))

end FilterQuery.Console
