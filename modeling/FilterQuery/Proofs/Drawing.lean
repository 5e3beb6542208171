/-
Drawings show the whole predicate.

The builder of a tree grows it node by node, and a printer draws it line by line. Which tree has
grown is shown elsewhere (`tree?_planted`), and a printer is relied on to draw it as it is pictured,
so what is left is the picture. In it, what there is of a line is spread over all the parts that the
line lies in. Here a line is looked at from where it stands. A node is found by its path from the top,
and its guides can be told from the path alone: the last one branches off, and those before it pass
the trunks of the ANDs above (`guides`). The picture is then nothing but one line for each node, first
an AND and then its left and its right part (`draw_eq_map_line`).

So nothing is lost. The lines of the two parts are told apart by what they begin with, and taking
the guides off gives the pictures of the parts back. Therefore a picture determines the shape of the
predicate and the texts of its leaves (`draw_eq_iff`).

All this is for pictures of which each line fits on the terminal. A line that does not is for the
printer to break. If all lines fit then the predicate is not deep, so there is room for the calls of
the builder as well (`isWritable_and_drawingCalls_le`).
-/
import FilterQuery.CommandLine
import FilterQuery.Proofs.Fitting
import FilterQuery.Proofs.Growing

set_option autoImplicit false

namespace FilterQuery.Predicate

open Console

/-! ## Pictures -/

/-- The picture of a predicate. -/
def draw (settings : Settings) : Predicate → List (List Char)
  | .both left right =>
    "AND".toList :: (hang "├── " "│   " (left.draw settings) ++
      hang "└── " "    " (right.draw settings))
  | leaf => [((leaf.toDatum settings).toJson .all).toList]

/-- What is shown of the labels of a predicate. -/
def shownLabel : Label → List Char
  | .plain text => text.toList
  | .tagged _ => "AND".toList

/-- **The tree of a predicate has its picture.** -/
theorem lines_tree (settings : Settings) (p : Predicate) :
    (p.tree settings).lines shownLabel = p.draw settings := by
  induction p with
  | both left right ihleft ihright =>
      rw [tree, Tree.lines, Tree.linesOf, Tree.linesOf, ihleft, ihright]
      rfl
  | _ => rfl

/-! ## Nodes -/

/-- The two parts of an AND. -/
inductive Side where
  | left | right
deriving DecidableEq, Repr

/-- A node of one part of an AND, seen from the AND. -/
def Side.fromAbove (side : Side) (node : List Side × Predicate) : List Side × Predicate :=
  (side :: node.1, node.2)

/-- The nodes of a predicate, each with the path to it from the top: first the node at the top, then
those of its left part and those of its right part. -/
def nodes : Predicate → List (List Side × Predicate)
  | .both left right =>
    ([], .both left right) ::
      (left.nodes.map Side.left.fromAbove ++ right.nodes.map Side.right.fromAbove)
  | leaf => [([], leaf)]

/-- What a path leads to. -/
def at? : Predicate → List Side → Option Predicate
  | p, [] => some p
  | .both left _, .left :: path => left.at? path
  | .both _ right, .right :: path => right.at? path
  | _, _ :: _ => none

/-- The left part comes first. -/
def Side.Before (a b : Side) : Prop := a = .left ∧ b = .right

/-- **The nodes are what the paths lead to**: none is missing, and none is in a wrong place. -/
theorem mem_nodes_iff {p q : Predicate} {path : List Side} :
    (path, q) ∈ p.nodes ↔ p.at? path = some q := by
  induction p generalizing path with
  | nullCheck check field => cases path <;> simp [nodes, at?, eq_comm]
  | comparison op field first rest => cases path <;> simp [nodes, at?, eq_comm]
  | both left right ihleft ihright =>
      rw [nodes, List.mem_cons, List.mem_append, List.mem_map, List.mem_map]
      cases path with
      | nil => simp [Side.fromAbove, at?, eq_comm]
      | cons side path =>
          cases side with
          | left => simp [Side.fromAbove, at?, ← ihleft]
          | right => simp [Side.fromAbove, at?, ← ihright]

/-- **The nodes are in order**: a node before those below it, and left before right. -/
theorem pairwise_nodes (p : Predicate) :
    p.nodes.Pairwise fun a b => List.Lex Side.Before a.1 b.1 := by
  induction p with
  | nullCheck check field => exact List.pairwise_singleton _ _
  | comparison op field first rest => exact List.pairwise_singleton _ _
  | both left right ihleft ihright =>
      have hbelow : ∀ (side : Side) {ns : List (List Side × Predicate)},
          ns.Pairwise (fun a b => List.Lex Side.Before a.1 b.1) →
            (ns.map side.fromAbove).Pairwise fun a b => List.Lex Side.Before a.1 b.1 :=
        fun side ns hns => List.pairwise_map.2 (hns.imp fun h => .cons h)
      rw [nodes, List.pairwise_cons, List.pairwise_append]
      refine ⟨?_, hbelow .left ihleft, hbelow .right ihright, ?_⟩
      · simp only [List.mem_append, List.mem_map]
        rintro _ (⟨node, -, rfl⟩ | ⟨node, -, rfl⟩) <;> exact .nil
      · simp only [List.mem_map]
        rintro _ ⟨a, -, rfl⟩ _ ⟨b, -, rfl⟩
        exact .rel ⟨rfl, rfl⟩

theorem exists_nodes_eq_cons (p : Predicate) :
    ∃ others, p.nodes = ([], p) :: others ∧ ∀ node ∈ others, node.1 ≠ [] := by
  cases p with
  | nullCheck check field => exact ⟨[], rfl, by simp⟩
  | comparison op field first rest => exact ⟨[], rfl, by simp⟩
  | both left right =>
      refine ⟨_, rfl, ?_⟩
      simp only [List.mem_append, List.mem_map]
      rintro _ (⟨node, -, rfl⟩ | ⟨node, -, rfl⟩) <;> exact List.cons_ne_nil _ _

/-- Every AND joins two parts, so there is one less of them than of leaves. -/
theorem length_nodes (p : Predicate) : p.nodes.length + 1 = 2 * p.leaves.length := by
  induction p with
  | nullCheck check field => rfl
  | comparison op field first rest => rfl
  | both left right ihleft ihright =>
      rw [nodes, leaves, List.length_cons, List.length_append, List.length_append, List.length_map,
        List.length_map]
      omega

/-! ## Lines -/

namespace Side

/-- The guide of the first line of a part. -/
def branch : Side → List Char
  | .left => "├── ".toList
  | .right => "└── ".toList

/-- The guide of the further lines of a part. Only below a left part the trunk goes on. -/
def trunk : Side → List Char
  | .left => "│   ".toList
  | .right => "    ".toList

end Side

/-- The guides before a node, by the path to it. -/
def guides : List Side → List (List Char)
  | [] => []
  | [side] => [side.branch]
  | side :: next :: path => side.trunk :: guides (next :: path)

/-- What is written for a node itself. -/
def label (settings : Settings) : Predicate → List Char
  | .both _ _ => "AND".toList
  | leaf => ((leaf.toDatum settings).toJson .all).toList

/-- The line of a node. -/
def line (settings : Settings) (node : List Side × Predicate) : List Char :=
  (guides node.1).flatten ++ node.2.label settings

theorem length_guides (path : List Side) : (guides path).length = path.length := by
  fun_induction guides path with
  | case1 => rfl
  | case2 side => rfl
  | case3 side next path ih => exact congrArg (· + 1) ih

/-- The lines of a part, hung below an AND, are the lines of its nodes as they are found there. -/
theorem hang_map_line (settings : Settings) (side : Side) {first further : String}
    (hfirst : first.toList = side.branch) (hfurther : further.toList = side.trunk) (p : Predicate) :
    hang first further (p.nodes.map (line settings))
      = (p.nodes.map side.fromAbove).map (line settings) := by
  -- The first line is that of the top of the part, and no other node is at the top.
  obtain ⟨others, hnodes, hothers⟩ := exists_nodes_eq_cons p
  have htop : first.toList ++ line settings ([], p) = line settings ([side], p) := by
    simp [line, guides, hfirst]
  have hbelow : ∀ node ∈ others, further.toList ++ line settings node
      = line settings (side.fromAbove node) := by
    rintro ⟨path, q⟩ hmem
    cases path with
    | nil => exact absurd rfl (hothers _ hmem)
    | cons next path => simp [line, Side.fromAbove, guides, hfurther]
  rw [hnodes, List.map_cons, hang, List.map_cons, List.map_cons, htop, List.map_map, List.map_map]
  exact congrArg _ (List.map_congr_left hbelow)

/-- **A drawing has one line for each node.** -/
theorem draw_eq_map_line (settings : Settings) (p : Predicate) :
    p.draw settings = p.nodes.map (line settings) := by
  induction p with
  | nullCheck check field => simp [draw, nodes, line, guides, label]
  | comparison op field first rest => simp [draw, nodes, line, guides, label]
  | both left right ihleft ihright =>
      have htop : line settings ([], .both left right) = "AND".toList := List.nil_append _
      rw [draw, ihleft, ihright, nodes, List.map_cons, List.map_append,
        hang_map_line settings .left rfl rfl, hang_map_line settings .right rfl rfl, htop]

/-! ## Reading a drawing -/

/-- How a predicate is put together. -/
inductive Shape where
  | leaf
  | both (left right : Shape)
deriving DecidableEq, Repr

def shape : Predicate → Shape
  | .both left right => .both left.shape right.shape
  | _ => .leaf

/-- The JSON texts of the leaves, from left to right. -/
def leafTexts (settings : Settings) (p : Predicate) : List String :=
  p.leaves.map fun leaf => (leaf.toDatum settings).toJson .all

theorem leaf_or_both (p : Predicate) : p.shape = .leaf ∨ ∃ left right, p = .both left right := by
  cases p with
  | both left right => exact .inr ⟨left, right, rfl⟩
  | _ => exact .inl rfl

section

variable {settings : Settings} {p : Predicate}

theorem leafTexts_both (left right : Predicate) :
    (both left right).leafTexts settings = left.leafTexts settings ++ right.leafTexts settings :=
  List.map_append

theorem leafTexts_of_leaf (hp : p.shape = .leaf) :
    p.leafTexts settings = [(p.toDatum settings).toJson .all] := by
  cases p with
  | both left right => cases hp
  | _ => simp [leafTexts, leaves]

theorem draw_of_leaf (hp : p.shape = .leaf) :
    p.draw settings = [((p.toDatum settings).toJson .all).toList] := by
  cases p with
  | both left right => cases hp
  | _ => simp [draw]

end

/-- Predicates of one shape have equally many leaves. -/
theorem length_leafTexts_of_shape_eq (settings settings' : Settings) {p q : Predicate}
    (h : p.shape = q.shape) :
    (p.leafTexts settings).length = (q.leafTexts settings').length := by
  induction p generalizing q with
  | both left right ihleft ihright =>
      rcases leaf_or_both q with hq | ⟨left', right', rfl⟩
      · rw [hq] at h
        cases h
      · obtain ⟨hleft, hright⟩ := Shape.both.inj h
        rw [leafTexts_both, leafTexts_both, List.length_append, List.length_append, ihleft hleft,
          ihright hright]
  | _ => rw [leafTexts_of_leaf rfl, leafTexts_of_leaf h.symm]; rfl

theorem hang_injective (first further : String) : Function.Injective (hang first further) := by
  intro lines lines' h
  cases lines with
  | nil =>
      cases lines' with
      | nil => rfl
      | cons line' lines' => cases h
  | cons line lines =>
      cases lines' with
      | nil => cases h
      | cons line' lines' =>
          obtain ⟨hfirst, hfurther⟩ := List.cons.inj h
          rw [List.append_cancel_left hfirst,
            List.map_injective_iff.2 (fun _ _ => List.append_cancel_left) hfurther]

/-- Whether a line is one of the left part of the AND at the top. -/
def isOfLeft (line : List Char) : Bool := line.head?.any fun c => c = '├' || c = '│'

/-- The guides of the two parts begin with different characters. -/
theorem isOfLeft_of_mem_hang {first further : String} {value : Bool}
    (hguides : ∀ rest, isOfLeft (first.toList ++ rest) = value ∧
      isOfLeft (further.toList ++ rest) = value)
    {lines : List (List Char)} : ∀ line ∈ hang first further lines, isOfLeft line = value := by
  cases lines with
  | nil => simp [hang]
  | cons line lines =>
      rw [hang, List.forall_mem_cons, List.forall_mem_map]
      exact ⟨(hguides line).1, fun line _ => (hguides line).2⟩

/-- So the lines of the left part can be picked out of a drawing. -/
theorem filter_isOfLeft (upper lower : List (List Char)) :
    (hang "├── " "│   " upper ++ hang "└── " "    " lower).filter isOfLeft
      = hang "├── " "│   " upper := by
  have hupper : ∀ line ∈ hang "├── " "│   " upper, isOfLeft line = true :=
    isOfLeft_of_mem_hang fun _ => ⟨rfl, rfl⟩
  have hlower : ∀ line ∈ hang "└── " "    " lower, isOfLeft line = false :=
    isOfLeft_of_mem_hang fun _ => ⟨rfl, rfl⟩
  rw [List.filter_append, List.filter_eq_self.2 hupper,
    List.filter_eq_nil_iff.2 fun line hline => by rw [hlower line hline]; exact Bool.false_ne_true,
    List.append_nil]

section

variable {settings settings' : Settings}

/-- **The parts of a drawing can be taken apart**, and the guides be taken off. -/
theorem draw_both_eq_iff {left right left' right' : Predicate} :
    (both left right).draw settings = (both left' right').draw settings' ↔
      left.draw settings = left'.draw settings' ∧ right.draw settings = right'.draw settings' := by
  rw [draw, draw]
  refine ⟨fun h => ?_, fun ⟨hleft, hright⟩ => by rw [hleft, hright]⟩
  -- Once the left parts are seen to be alike, the right ones are what is left.
  have hparts := (List.cons.inj h).2
  have hupper := congrArg (List.filter isOfLeft) hparts
  rw [filter_isOfLeft, filter_isOfLeft] at hupper
  rw [hupper] at hparts
  exact ⟨hang_injective _ _ hupper, hang_injective _ _ (List.append_cancel_left hparts)⟩

/-- A leaf takes one line, so it is drawn like another leaf or not at all. -/
theorem draw_of_leaf_eq_iff {p q : Predicate} (hp : p.shape = .leaf) :
    p.draw settings = q.draw settings' ↔
      p.shape = q.shape ∧ p.leafTexts settings = q.leafTexts settings' := by
  rcases leaf_or_both q with hq | ⟨left, right, rfl⟩
  · simp [draw_of_leaf, leafTexts_of_leaf, hp, hq, String.toList_inj]
  · have hlines : 1 < ((both left right).draw settings').length := by
      obtain ⟨others, hnodes, -⟩ := exists_nodes_eq_cons left
      rw [draw_eq_map_line, List.length_map, nodes, hnodes]
      simp
    rw [draw_of_leaf hp, hp]
    refine ⟨fun h => ?_, fun h => absurd h.1 nofun⟩
    rw [← h, List.length_singleton] at hlines
    exact absurd hlines (Nat.lt_irrefl 1)

/-- **A drawing determines the shape and the texts of the leaves**, and nothing else of the
predicate. -/
theorem draw_eq_iff {p q : Predicate} : p.draw settings = q.draw settings' ↔
    p.shape = q.shape ∧ p.leafTexts settings = q.leafTexts settings' := by
  induction p generalizing q with
  | both left right ihleft ihright =>
      rcases leaf_or_both q with hq | ⟨left', right', rfl⟩
      · rw [eq_comm, draw_of_leaf_eq_iff hq, eq_comm, @eq_comm _ (q.leafTexts settings')]
      · rw [draw_both_eq_iff, ihleft, ihright, leafTexts_both, leafTexts_both, shape, shape,
          Shape.both.injEq]
        constructor
        · rintro ⟨⟨hleft, hlefts⟩, hright, hrights⟩
          exact ⟨⟨hleft, hright⟩, by rw [hlefts, hrights]⟩
        · rintro ⟨⟨hleft, hright⟩, htexts⟩
          -- The left parts have equally many leaves, so the texts come apart at the same place.
          obtain ⟨hlefts, hrights⟩ :=
            List.append_inj htexts (length_leafTexts_of_shape_eq settings settings' hleft)
          exact ⟨⟨hleft, hlefts⟩, hright, hrights⟩
  | _ => exact draw_of_leaf_eq_iff rfl

end

/-! ## What is shown -/

/-- No label has a control character, and none ends with a blank. -/
theorem isClear_label (settings : Settings) (p : Predicate) :
    Printer.IsClear (p.label settings) := by
  have hleaf : ∀ entries, p.toDatum settings = .record entries →
      Printer.IsClear ((p.toDatum settings).toJson .all).toList := by
    intro entries hrecord
    have htext : ((p.toDatum settings).toJson .all).toList
        = '\x7b' :: (Json.separated (Json.ofEntries .all entries) ++ ['\x7d']) := by
      rw [hrecord]
      exact String.toList_ofList
    refine ⟨?_, Json.isShown_of_mem_toJson, ?_⟩
    · rw [htext]
      exact ⟨'\x7b', rfl, by decide⟩
    · intro c hc
      rw [htext, ← List.cons_append, List.getLast?_concat] at hc
      rw [← Option.some.inj hc]
      decide
  cases p with
  | both left right =>
      exact ⟨⟨'A', rfl, by decide⟩, by simp [label],
        by simp [label, Text.isBlank]⟩
  | nullCheck check field => exact hleaf _ rfl
  | comparison op field first rest => exact hleaf _ rfl

/-- **Every label is shown as meant.** -/
theorem shown_labels {Fault : Type} {printer : Printer Fault} (hprinter : printer.DrawsTrees)
    (settings : Settings) (p : Predicate) : ∀ l ∈ (p.tree settings).labels,
      printer.shown l = .ok (shownLabel l) ∧ Printer.IsClear (shownLabel l) := by
  induction p with
  | both left right ihleft ihright =>
      simp only [tree, Tree.labels, Tree.labelsOf, List.append_nil]
      rw [List.forall_mem_cons, List.forall_mem_append]
      exact ⟨⟨hprinter.untagged_bold, isClear_label settings (both left right)⟩, ihleft, ihright⟩
  | nullCheck check field =>
      exact List.forall_mem_singleton.2 ⟨rfl, isClear_label settings (.nullCheck check field)⟩
  | comparison op field first rest =>
      exact List.forall_mem_singleton.2
        ⟨rfl, isClear_label settings (.comparison op field first rest)⟩

theorem mem_guides {path : List Side} :
    ∀ guide ∈ guides path, guide ∈ ["├── ", "│   ", "└── ", "    "].map String.toList := by
  fun_induction guides path with
  | case1 => simp
  | case2 side => cases side <;> simp [Side.branch]
  | case3 side next path ih =>
      refine List.forall_mem_cons.2 ⟨?_, ih⟩
      cases side <;> simp [Side.trunk]

theorem not_mem_line (settings : Settings) (node : List Side × Predicate) :
    '\n' ∉ line settings node := by
  intro hmem
  rcases List.mem_append.1 hmem with hguides | hlabel
  · obtain ⟨guide, hguide, hc⟩ := List.mem_flatten.1 hguides
    have hnone : ∀ guide ∈ ["├── ", "│   ", "└── ", "    "].map String.toList, '\n' ∉ guide := by
      decide
    exact hnone guide (mem_guides guide hguide) hc
  · exact absurd ((isClear_label settings node.2).no_control _ hlabel) (by decide)

/-! ## Room -/

section

variable {Fault : Type} {printer : Printer Fault}

theorem exists_mem_draw (settings : Settings) (p : Predicate) : ∃ line, line ∈ p.draw settings := by
  cases p <;> exact ⟨_, List.mem_cons_self⟩

theorem isWritable_and_nesting_le (hprinter : printer.CountsCells) {settings : Settings}
    {p : Predicate} {limit : Nat} (hlimit : limit ≤ Numeral.integerDigitLimit)
    (hfits : printer.width ((p.toDatum settings).toJson .all).toList ≤ limit) :
    p.isWritable = true ∧ (p.toDatum settings).nesting ≤ limit := by
  have hcovers := Printer.covers_ofDatum hprinter .all (p.toDatum settings) []
  rw [Datum.toJson, String.toList_ofList] at hfits
  rw [List.append_nil, isWritable_toDatum] at hcovers
  refine ⟨?_, Nat.le_trans hcovers.nesting_le hfits⟩
  by_contra hnot
  have hdigits := hcovers.digits_lt (Bool.eq_false_of_not_eq_true hnot)
  omega

/-- **A picture that is narrow is not deep**, and there are no long integers in it. -/
theorem isWritable_and_drawingCalls_le (hprinter : printer.CountsCells) {settings : Settings}
    {p : Predicate} {limit : Nat} (hlimit : limit ≤ Numeral.integerDigitLimit)
    (hfits : ∀ line ∈ p.draw settings, printer.width line ≤ limit) :
    p.isWritable = true ∧ p.drawingCalls settings ≤ limit + 1 := by
  induction p generalizing limit with
  | both left right ihleft ihright =>
      rw [draw, List.forall_mem_cons, List.forall_mem_append] at hfits
      obtain ⟨-, hleft, hright⟩ := hfits
      replace hleft := hprinter.width_add_four_le_of_mem_hang (by simp) (by simp) hleft
      replace hright := hprinter.width_add_four_le_of_mem_hang (by simp) (by simp) hright
      -- The guides take four cells, so there are as many to take.
      obtain ⟨line, hline⟩ := exists_mem_draw settings left
      have hfour : 4 ≤ limit := Nat.le_trans (Nat.le_add_left _ _) (hleft line hline)
      have hless : limit - 4 ≤ Numeral.integerDigitLimit := by omega
      obtain ⟨hwleft, hcleft⟩ := ihleft hless
        fun line hline => Nat.le_sub_of_add_le (hleft line hline)
      obtain ⟨hwright, hcright⟩ := ihright hless
        fun line hline => Nat.le_sub_of_add_le (hright line hline)
      rw [isWritable, drawingCalls, hwleft, hwright]
      exact ⟨rfl, by omega⟩
  | _ =>
      rw [draw_of_leaf rfl, List.forall_mem_singleton] at hfits
      obtain ⟨hwritable, hnesting⟩ := isWritable_and_nesting_le hprinter hlimit hfits
      exact ⟨hwritable, Nat.succ_le_succ hnesting⟩

end

/-! ## What is printed -/

/-- Printed lines are found again. -/
theorem pieces_printLines {lines : List (List Char)} (hlines : ∀ line ∈ lines, '\n' ∉ line) :
    Text.pieces '\n' (printLines lines).toList = lines ++ [[]] := by
  rw [printLines, String.toList_ofList]
  induction lines with
  | nil => rfl
  | cons line lines ih =>
      obtain ⟨hline, hrest⟩ := List.forall_mem_cons.1 hlines
      rw [List.flatMap_cons, List.append_assoc, List.singleton_append, Text.pieces_append_cons,
        Text.pieces_of_not_mem hline, ih hrest]
      rfl

section

variable {Misreading Fault : Type} {printer : Printer Fault}

/-- **A predicate whose picture fits is printed as its picture.** -/
theorem answerFilter_table_eq (hprinter : printer.DrawsTrees) {room : Nat} (hroom : 100 ≤ room)
    {settings : Settings} {p : Predicate}
    (hfits : ∀ line ∈ p.draw settings, printer.width line ≤ terminalWidth) :
    (CommandLine.answerFilter printer room settings .table { predicate := some p } :
      CommandLine.Answer Misreading Fault) = .printed { out := printLines (p.draw settings) } := by
  have hlimit : terminalWidth ≤ Numeral.integerDigitLimit := by decide
  obtain ⟨hwritable, hcalls⟩ := isWritable_and_drawingCalls_le hprinter.toCountsCells hlimit hfits
  have hcalls : p.drawingCalls settings ≤ room := by
    have hwidth : terminalWidth = 80 := rfl
    omega
  have hlines := lines_tree settings p
  have hprint := hprinter.print_tree _ _ _ shownLabel (tree?_planted p)
    (shown_labels hprinter settings p) (by rwa [hlines])
  rw [hlines] at hprint
  unfold CommandLine.answerFilter
  dsimp only
  rw [drawing_eq hwritable hcalls]
  dsimp only
  rw [CommandLine.display, hprint]
  rfl

/-- What it takes for a printed text to show a predicate. -/
structure Shows (printer : Printer Fault) (settings : Settings) (p : Predicate) (out : String) :
    Prop where
  /-- Every line is that of a node, and ends where the next one begins. -/
  pieces_eq : Text.pieces '\n' out.toList = p.nodes.map (line settings) ++ [[]]
  length_nodes : p.nodes.length + 1 = 2 * p.leaves.length
  mem_nodes_iff : ∀ path q, (path, q) ∈ p.nodes ↔ p.at? path = some q
  pairwise_nodes : p.nodes.Pairwise fun a b => List.Lex Side.Before a.1 b.1
  /-- A node has one guide for every AND that it lies under, of four cells each. -/
  guides : ∀ node ∈ p.nodes, (guides node.1).length = node.1.length ∧
    ∀ guide ∈ guides node.1, printer.width guide = 4

/-- **A predicate is shown as a whole**, by whatever printer, if each line fits on the terminal.
Whatever else fits and is shown by the same text is put together in the same way, from leaves with the
same texts. -/
theorem shows_answerFilter_table (hprinter : printer.DrawsTrees) {room : Nat} (hroom : 100 ≤ room)
    {settings : Settings} {p : Predicate}
    (hfits : ∀ line ∈ p.draw settings, printer.width line ≤ terminalWidth) :
    ∃ out, (CommandLine.answerFilter printer room settings .table { predicate := some p } :
        CommandLine.Answer Misreading Fault) = .printed { out } ∧
      Shows printer settings p out ∧
      ∀ settings' q, (∀ line ∈ q.draw settings', printer.width line ≤ terminalWidth) →
        ((CommandLine.answerFilter printer room settings' .table { predicate := some q } :
            CommandLine.Answer Misreading Fault) = .printed { out } ↔
          q.shape = p.shape ∧ q.leafTexts settings' = p.leafTexts settings) := by
  have hpieces : ∀ settings (q : Predicate),
      Text.pieces '\n' (printLines (q.draw settings)).toList = q.draw settings ++ [[]] := by
    intro settings q
    rw [draw_eq_map_line]
    exact pieces_printLines (List.forall_mem_map.2 fun node _ => not_mem_line settings node)
  refine ⟨printLines (p.draw settings), answerFilter_table_eq hprinter hroom hfits, ?_, ?_⟩
  · refine ⟨?_, length_nodes p, fun path q => mem_nodes_iff, pairwise_nodes p,
      fun node _ => ⟨length_guides node.1, fun guide hguide => ?_⟩⟩
    · rw [hpieces, draw_eq_map_line]
    · obtain ⟨g, hg, rfl⟩ := List.mem_map.1 (mem_guides guide hguide)
      exact hprinter.width_guide g hg
  · -- No line holds a line end, so the lines can be told from the text.
    intro settings' q hfits'
    rw [← draw_eq_iff, answerFilter_table_eq hprinter hroom hfits']
    constructor
    · intro h
      injection h with h
      injection h with _ hout _
      have hlines := hpieces settings' q
      rw [hout, hpieces] at hlines
      exact (List.append_cancel_right hlines).symm
    · intro h
      rw [h]

end

/-- An AND below an AND, on the left, printed for a terminal without colours. -/
theorem shows_drawing_of_three_leaves :
    let p : Predicate := .both
      (.both (.nullCheck .isNull "a") (.comparison .equal "名" (.scalar (.int 1)) []))
      (.comparison .oneOf "b" (.text "x") [.text "y"])
    let lines : List String :=
      ["AND", "├── AND", "│   ├── \x7b\"is null\": \"#a\"\x7d",
        "│   └── \x7b\"=\": [\"#名\", 1]\x7d", "└── \x7b\"in\": [\"#b\", [\"x\", \"y\"]]\x7d"]
    let out := printLines (lines.map String.toList)
    (∀ line ∈ p.draw .standard, Terminal.printer.width line ≤ terminalWidth) ∧
      (CommandLine.answerFilter Terminal.printer callLimit .standard .table
        { predicate := some p } : CommandLine.Answer Unit Markup.Fault) = .printed { out } ∧
      Shows Terminal.printer .standard p out := by
  intro p lines out
  have hfits : ∀ line ∈ p.draw .standard, Terminal.printer.width line ≤ terminalWidth := by
    decide +kernel
  have hdraw : p.draw .standard = lines.map String.toList := by decide +kernel
  obtain ⟨text, hanswer, hshows, -⟩ := @shows_answerFilter_table Unit _ _
    Terminal.drawsTrees_printer callLimit (by decide) _ _ hfits
  have hout : text = out := by
    rw [answerFilter_table_eq Terminal.drawsTrees_printer (by decide) hfits, hdraw] at hanswer
    exact (congrArg CommandLine.Printed.out (CommandLine.Answer.printed.inj hanswer)).symm
  rw [hout] at hanswer hshows
  exact ⟨hfits, hanswer, hshows⟩

end FilterQuery.Predicate
