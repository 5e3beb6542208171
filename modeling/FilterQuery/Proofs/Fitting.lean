/-
Texts that fit are not broken.

A text is laid out word by word, and the words are put on a row as long as they fit. So a text that
fits as a whole stays one row (`wrap_eq_singleton`), if its words together take no more cells than
it does. They may take fewer: a joiner hides a blank, and a selector behind the blank then widens
the character before it, which it cannot do at the beginning of a word. Nothing else reaches across
the blanks between two words, since no blank is a joiner.

The last character must not be a blank. Blanks at the end of a row are dropped by the number of its
characters and not of its cells.

The labels of a tree are texts that are laid out behind guides. A tree whose lines fit is therefore
laid out as it is pictured, and the printer for a terminal does what is relied on where trees are
drawn (`drawsTrees_printer`).
-/
import FilterQuery.Console.Terminal
import FilterQuery.Proofs.Pieces
import FilterQuery.Proofs.Trimming
import FilterQuery.Proofs.Width
import Mathlib.Data.List.Basic

set_option autoImplicit false

namespace FilterQuery.Console

open FilterQuery.Text

/-! ## Cells of parts -/

/-- A text that ends with a blank. -/
def EndsBlank (s : List Char) : Prop := ∃ front b, s = front ++ [b] ∧ isBlank b = true

theorem EndsBlank.append {s : List Char} (hs : EndsBlank s) (front : List Char) :
    EndsBlank (front ++ s) := by
  obtain ⟨init, b, rfl, hb⟩ := hs
  exact ⟨front ++ init, b, (List.append_assoc _ _ _).symm, hb⟩

namespace Cells

/-- A character adds its cells to those of what follows. Behind a blank nothing is joined. -/
theorem exists_widthAfter_cons (joined : Bool) (base : Option Char) (c : Char) :
    ∃ cells joined' base', (isBlank c = true → joined' = false) ∧
      ∀ rest, widthAfter joined base (c :: rest) = cells + widthAfter joined' base' rest := by
  cases joined with
  | true => exact ⟨0, false, base, fun _ => rfl, fun rest => by rw [widthAfter, Nat.zero_add]⟩
  | false =>
      by_cases hjoiner : c = joiner
      · have hblank : isBlank c ≠ true := by rw [hjoiner]; decide
        exact ⟨0, true, base, fun h => absurd h hblank,
          fun rest => by rw [widthAfter, if_pos hjoiner, Nat.zero_add]⟩
      · by_cases hselector : c = emojiSelector
        · exact ⟨gain base, false, none, fun _ => rfl,
            fun rest => by rw [widthAfter, if_neg hjoiner, if_pos hselector]⟩
        · by_cases hcells : charWidth c = 0
          · exact ⟨0, false, base, fun _ => rfl, fun rest => by
              rw [widthAfter, if_neg hjoiner, if_neg hselector, if_pos hcells, Nat.zero_add]⟩
          · exact ⟨charWidth c, false, some c, fun _ => rfl, fun rest => by
              rw [widthAfter, if_neg hjoiner, if_neg hselector, if_neg hcells]⟩

/-- Only a selector asks for the character before it, and widens nothing if there is none. -/
theorem widthAfter_none_le (joined : Bool) (base : Option Char) (s : List Char) :
    widthAfter joined none s ≤ widthAfter joined base s := by
  fun_induction widthAfter joined base s with
  | case1 => exact Nat.le_refl _
  | case2 base c rest ih => exact ih
  | case3 base rest ih =>
      rw [widthAfter, if_pos rfl]
      exact ih
  | case4 base rest hjoiner ih =>
      rw [widthAfter, if_neg hjoiner, if_pos rfl]
      exact Nat.add_le_add_right (Nat.zero_le _) _
  | case5 base c rest hjoiner hselector hcells ih =>
      rw [widthAfter, if_neg hjoiner, if_neg hselector, if_pos hcells]
      exact ih
  | case6 base c rest hjoiner hselector hcells ih =>
      rw [widthAfter, if_neg hjoiner, if_neg hselector, if_neg hcells]

theorem widthAfter_le_append (joined : Bool) (base : Option Char) (s t : List Char) :
    widthAfter joined base s ≤ widthAfter joined base (s ++ t) := by
  induction s generalizing joined base with
  | nil => exact Nat.zero_le _
  | cons c s ih =>
      obtain ⟨cells, joined', base', -, hstep⟩ := exists_widthAfter_cons joined base c
      rw [List.cons_append, hstep, hstep]
      exact Nat.add_le_add_left (ih joined' base') cells

/-- **Nothing reaches across a blank** that would take cells away. -/
theorem widthAfter_add_width_le {s : List Char} (hs : EndsBlank s) (joined : Bool)
    (base : Option Char) (t : List Char) :
    widthAfter joined base s + width t ≤ widthAfter joined base (s ++ t) := by
  obtain ⟨front, b, rfl, hb⟩ := hs
  induction front generalizing joined base with
  | nil =>
      obtain ⟨cells, joined', base', hjoined, hstep⟩ := exists_widthAfter_cons joined base b
      rw [List.nil_append, List.singleton_append, hstep, hstep, hjoined hb]
      exact Nat.add_le_add_left (widthAfter_none_le false base' t) cells
  | cons c front ih =>
      obtain ⟨cells, joined', base', -, hstep⟩ := exists_widthAfter_cons joined base c
      rw [List.cons_append, List.cons_append, hstep, hstep, Nat.add_assoc]
      exact Nat.add_le_add_left (ih joined' base') cells

end Cells

theorem width_le_append (s t : List Char) : width s ≤ width (s ++ t) :=
  Cells.widthAfter_le_append false none s t

theorem width_add_width_le {s : List Char} (hs : EndsBlank s) (t : List Char) :
    width s + width t ≤ width (s ++ t) :=
  Cells.widthAfter_add_width_le hs false none t

/-! ## Words -/

/-- Rows of which each but the last ends with a blank. -/
abbrev Spaced (rows : List (List Char)) : Prop := rows.IsChain fun row _ => EndsBlank row

/-- The rows of a line hold its characters and no others. -/
theorem flatten_foldr_joinRow (line : List Char) : (line.foldr joinRow []).flatten = line := by
  induction line with
  | nil => rfl
  | cons c line ih =>
      rw [List.foldr_cons]
      cases hrows : line.foldr joinRow [] with
      | nil =>
          rw [hrows] at ih
          rw [← ih]
          rfl
      | cons row rows =>
          rw [hrows, List.flatten_cons] at ih
          rw [joinRow]
          split
          · rw [List.flatten_cons, List.flatten_cons, ih, List.singleton_append]
          · rw [List.flatten_cons, List.cons_append, ih]

theorem spaced_foldr_joinRow (line : List Char) : Spaced (line.foldr joinRow []) := by
  induction line with
  | nil => exact .nil
  | cons c line ih =>
      rw [List.foldr_cons]
      cases hrows : line.foldr joinRow [] with
      | nil => exact .singleton _
      | cons row rows =>
          rw [hrows] at ih
          rw [joinRow]
          split
          · next hblank =>
              -- A blank before another character ends a row of its own.
              rw [Bool.and_eq_true] at hblank
              exact List.IsChain.cons_cons ⟨[], c, rfl, hblank.1⟩ ih
          · cases rows with
            | nil => exact .singleton _
            | cons next rows =>
                obtain ⟨hrow, hrest⟩ := List.isChain_cons_cons.1 ih
                exact List.IsChain.cons_cons (hrow.append [c]) hrest

/-- **The words of a line are the line**, cut behind blanks, unless it is a line of blanks. -/
theorem words_cases (line : List Char) :
    words line = [] ∨ Spaced (words line) ∧ (words line).flatten = line := by
  have hspaced := spaced_foldr_joinRow line
  have hflatten := flatten_foldr_joinRow line
  unfold words
  split
  · exact .inl rfl
  · next first rest hrows =>
      rw [hrows] at hspaced hflatten
      split
      · split
        · exact .inl rfl
        · next second rest =>
            -- The blanks at the beginning of the line are no word of their own.
            obtain ⟨-, hsecond⟩ := List.isChain_cons_cons.1 hspaced
            refine .inr ⟨?_, by rw [← hflatten]; simp⟩
            cases rest with
            | nil => exact .singleton _
            | cons third rest =>
                obtain ⟨hend, hrest⟩ := List.isChain_cons_cons.1 hsecond
                exact List.IsChain.cons_cons (hend.append first) hrest
      · exact .inr ⟨hspaced, hflatten⟩

/-! ## Rows -/

/-- A word that fits is put behind those that are on the row. -/
theorem Page.put_of_fits {limit : Nat} (longWords : LongWords) {page : Page} {word : List Char}
    (hfits : page.used + width word ≤ limit) :
    page.put limit longWords word = {
      lines := (page.lines.headD [] ++ word) :: page.lines.tail
      used := page.used + width word } := by
  have htrimmed : width (trimEnd word) ≤ width word := by
    obtain ⟨rest, hrest⟩ := exists_eq_trimEnd_append word
    have hle := width_le_append (trimEnd word) rest
    rwa [← hrest] at hle
  rw [Page.put]
  exact if_pos (Nat.le_trans (Nat.add_le_add_left htrimmed _) hfits)

/-- **Words that fit together are put on one row.** -/
theorem lines_foldl_put {limit : Nat} (longWords : LongWords) {word : List Char}
    {found : List (List Char)} {page : Page} (hspaced : Spaced (word :: found))
    (hfits : page.used + width (word :: found).flatten ≤ limit) :
    ((word :: found).foldl (Page.put limit longWords) page).lines
      = (page.lines.headD [] ++ (word :: found).flatten) :: page.lines.tail := by
  -- What is on the row and what is still to come fit together, however far the words are put.
  induction found generalizing word page with
  | nil =>
      rw [List.flatten_cons, List.flatten_nil, List.append_nil] at hfits ⊢
      rw [List.foldl_cons, List.foldl_nil, Page.put_of_fits longWords hfits]
  | cons next found ih =>
      obtain ⟨hend, hrest⟩ := List.isChain_cons_cons.1 hspaced
      rw [List.flatten_cons] at hfits
      have hcells := width_add_width_le hend (next :: found).flatten
      have hword : page.used + width word ≤ limit := by omega
      rw [List.foldl_cons, Page.put_of_fits longWords hword, ih hrest (by dsimp only; omega)]
      simp

theorem rows_eq_singleton {limit : Nat} (longWords : LongWords) {line : List Char}
    (hfits : width line ≤ limit) : rows limit longWords line = [line] := by
  rw [rows]
  rcases words_cases line with hnone | ⟨hspaced, hflatten⟩
  · rw [hnone]
  · cases hwords : words line with
    | nil => rfl
    | cons word found =>
        rw [hwords] at hspaced hflatten
        dsimp only
        rw [lines_foldl_put longWords hspaced (by rw [hflatten, Nat.zero_add]; exact hfits),
          hflatten]
        rfl

theorem fitRow_eq_self {limit : Nat} (longWords : LongWords) {row : List Char}
    (hlast : ∀ c ∈ row.getLast?, isBlank c = false) (hfits : width row ≤ limit) :
    fitRow limit longWords row = .ok row := by
  have htrimmed : trimEnd row = row := by
    rw [trimEnd, dropWhile_eq_self (by rwa [List.head?_reverse]), List.reverse_reverse]
  rw [fitRow, dropExcess, htrimmed, Nat.sub_self, Nat.zero_min, Nat.sub_zero, List.take_length]
  exact if_pos hfits

/-! ## Texts -/

/-- **A text that fits is one line**, and is not changed. -/
theorem wrap_eq_singleton {limit : Nat} (longWords : LongWords) {s : List Char}
    (hshown : ∀ c ∈ s, 0x20 ≤ c.toNat) (hlast : ∀ c ∈ s.getLast?, isBlank c = false)
    (hfits : width s ≤ limit) : wrap limit longWords s = .ok [s] := by
  have hnot : ∀ c : Char, c.toNat < 0x20 → c ∉ s := by
    intro c hc hmem
    exact absurd (hshown c hmem) (Nat.not_le.2 hc)
  have hcontrols : withoutControls s = s := by
    refine List.filter_eq_self.2 fun c hc => ?_
    rw [Bool.not_eq_true', List.contains_eq_mem, decide_eq_false_iff_not]
    intro hcontrol
    have hsmall : ∀ d ∈ ['\x07', '\x08', '\x0b', '\x0c', '\x0d'], d.toNat < 0x20 := by simp
    exact hnot c (hsmall c hcontrol) hc
  have htabs : expandTabs s = s := by
    rw [expandTabs, pieces_of_not_mem (hnot '\t' (by decide))]
    rfl
  have hline : wrapLine limit longWords s = .ok [s] := by
    rw [wrapLine, htabs, rows_eq_singleton longWords hfits, List.mapM_cons,
      fitRow_eq_self longWords hlast hfits]
    rfl
  rw [wrap, hcontrols, pieces_of_not_mem (hnot '\n' (by decide)), List.mapM_cons, hline]
  rfl

/-! ## Trees -/

namespace Terminal

open Printer

/-- **Cells are counted as is relied on.** -/
theorem countsCells_printer : printer.CountsCells where
  width_guide := by
    -- The widths come from a table, so they are evaluated.
    have hwidth : ∀ guide ∈ ["├── ", "│   ", "└── ", "    "], width guide.toList = 4 := by
      decide +kernel
    exact hwidth
  width_blank front text := by
    have hcells := width_add_width_le ⟨front, ' ', rfl, by decide⟩ text
    rwa [List.append_assoc] at hcells
  width_visible c text hc := by
    have hlow : 0x21 ≤ c.toNat := hc.1
    have hhigh : c.toNat ≤ 0x7e := hc.2
    have hjoiner : c ≠ Cells.joiner := by
      rintro rfl
      exact absurd hhigh (by decide)
    have hselector : c ≠ Cells.emojiSelector := by
      rintro rfl
      exact absurd hhigh (by decide)
    have hcell : charWidth c = 1 := by
      rw [charWidth, if_pos]
      rw [Bool.and_eq_true, decide_eq_true_eq, decide_eq_true_eq]
      omega
    have hrest := Cells.widthAfter_none_le false (some c) text
    change 1 + Cells.widthAfter false none text ≤ Cells.widthAfter false none (c :: text)
    rw [Cells.widthAfter, if_neg hjoiner, if_neg hselector, if_neg (by omega), hcell]
    exact Nat.add_le_add_left hrest 1

/-- A label that fits is one line. -/
theorem labelLines_eq {limit : Nat} {text : List Char} (hclear : IsClear text)
    (hfits : width text ≤ limit) : labelLines limit text = .ok [text] := by
  obtain ⟨c, hhead, hvisible⟩ := hclear.visible
  obtain ⟨rest, rfl⟩ := List.head?_eq_some_iff.1 hhead
  -- A text with a visible character takes a cell at least.
  have hcell : 1 + width rest ≤ width (c :: rest) :=
    countsCells_printer.width_visible c rest hvisible
  rw [labelLines, if_neg (by omega), wrap_eq_singleton .fold hclear.no_control hclear.no_blank hfits]
  rfl

theorem shown_eq (label : Label) : Terminal.shown label = printer.shown label := by
  cases label <;> rfl

mutual

/-- **A tree whose lines fit is laid out as it is pictured.** -/
theorem treeLines_eq {shown : Label → List Char} :
    (tree : Tree) → ∀ {limit : Nat},
      (∀ label ∈ tree.labels, printer.shown label = .ok (shown label) ∧ IsClear (shown label)) →
      (∀ line ∈ tree.lines shown, width line ≤ limit) →
      treeLines limit tree = .ok (tree.lines shown)
  | .node label branches, limit, hlabels, hfits => by
      rw [Tree.labels, List.forall_mem_cons] at hlabels
      rw [Tree.lines, List.forall_mem_cons] at hfits
      obtain ⟨⟨hshown, hclear⟩, hbelow⟩ := hlabels
      rw [treeLines, shown_eq, hshown, Tree.lines]
      dsimp only [bind, Except.bind]
      rw [labelLines_eq hclear hfits.1, branchLines_eq branches hbelow hfits.2]
      rfl

theorem branchLines_eq {shown : Label → List Char} :
    (trees : List Tree) → ∀ {limit : Nat},
      (∀ label ∈ Tree.labelsOf trees,
        printer.shown label = .ok (shown label) ∧ IsClear (shown label)) →
      (∀ line ∈ Tree.linesOf shown trees, width line ≤ limit) →
      branchLines (limit - 4) trees = .ok (Tree.linesOf shown trees)
  | [], limit, hlabels, hfits => rfl
  | [last], limit, hlabels, hfits => by
      rw [Tree.labelsOf, Tree.labelsOf, List.append_nil] at hlabels
      rw [Tree.linesOf] at hfits ⊢
      have hlast := countsCells_printer.width_add_four_le_of_mem_hang (by simp) (by simp) hfits
      rw [branchLines, treeLines_eq last hlabels fun line hline =>
        Nat.le_sub_of_add_le (hlast line hline)]
      rfl
  | tree :: next :: rest, limit, hlabels, hfits => by
      rw [Tree.labelsOf, List.forall_mem_append] at hlabels
      rw [Tree.linesOf, List.forall_mem_append] at hfits
      have hfirst := countsCells_printer.width_add_four_le_of_mem_hang (by simp) (by simp) hfits.1
      rw [branchLines, treeLines_eq tree hlabels.1 fun line hline =>
        Nat.le_sub_of_add_le (hfirst line hline), Tree.linesOf]
      dsimp only [bind, Except.bind]
      rw [branchLines_eq (next :: rest) hlabels.2 hfits.2]
      rfl

end

/-- **Trees are drawn as is relied on.** -/
theorem drawsTrees_printer : printer.DrawsTrees where
  toCountsCells := countsCells_printer
  untagged_bold := by decide +kernel
  print_tree forest place tree shown htree hlabels hfits := by
    have hprint : printer.print = Terminal.print := rfl
    rw [hprint, Terminal.print, htree]
    dsimp only
    rw [treeLines_eq tree hlabels hfits]
    rfl

end Terminal

end FilterQuery.Console
