/-
What is printed for people.

A line, a tree or a table is put together here and handed over to a printer, which is not part of
this library. The printer decides how it is laid out on a terminal: where a long text is broken,
which cells it takes, how a table is framed, and which tags a text may have. What is relied on is
said in short lists of facts: on the cells of a text (`Printer.CountsCells`), on drawing trees
(`Printer.DrawsTrees`), and on printing anything at all (`Printer.Prints`).

A tree is built by changing it: a node is added below one that is there already, and the node that
was added is handed back. So the nodes under construction are kept in one list, in which a node knows
those below it by their places (`Forest`). The printer goes through them from one place on.
-/
import FilterQuery.Text.Blank

set_option autoImplicit false

namespace FilterQuery.Console

/-! ## Trees under construction -/

/-- The label of a node: a text as it is, or one with tags, which are not shown. -/
inductive Label where
  | plain (text : String)
  | tagged (text : String)
deriving DecidableEq, Repr

/-- A node, and the places of the nodes below it. -/
structure Node where
  label : Label
  below : List Nat := []
deriving DecidableEq, Repr

/-- Nodes in the order in which they were made. -/
abbrev Forest := List Node

namespace Forest

/-- Makes a node, and tells its place. -/
def plant (forest : Forest) (label : Label) : Nat × Forest :=
  (forest.length, forest ++ [⟨label, []⟩])

/-- Makes a node below another one, after those that are there, and tells its place. -/
def add (forest : Forest) (parent : Nat) (label : Label) : Nat × Forest :=
  let (place, grown) := forest.plant label
  (place, grown.modify parent fun node => { node with below := node.below ++ [place] })

end Forest

/-! ## Trees -/

/-- A tree of labels. -/
inductive Tree where
  | node (label : Label) (branches : List Tree)

namespace Forest

/-- The trees that begin at the nodes of a forest, of which the first has this place. A node is only
put below nodes that were made before it. -/
def treesFrom : (place : Nat) → Forest → List Tree
  | _, [] => []
  | place, node :: later =>
    let trees := treesFrom (place + 1) later
    let branches := node.below.filterMap fun child =>
      if place < child then trees[child - (place + 1)]? else none
    .node node.label branches :: trees

/-- The tree that begins at a place. -/
def tree? (forest : Forest) (place : Nat) : Option Tree := (treesFrom 0 forest)[place]?

end Forest

/-- The lines of a part of a tree, its first line after the guide `first` and the others after
`further`. -/
def hang (first further : String) : List (List Char) → List (List Char)
  | [] => []
  | line :: lines => (first.toList ++ line) :: lines.map (further.toList ++ ·)

namespace Tree

mutual

/-- The labels of a tree. -/
def labels : Tree → List Label
  | .node label branches => label :: labelsOf branches

def labelsOf : List Tree → List Label
  | [] => []
  | tree :: rest => tree.labels ++ labelsOf rest

end

mutual

/-- The picture of a tree: one line for each label, which is shown so. A part is preceded by a
branch, and below it a trunk goes on if there is another part to come. -/
def lines (shown : Label → List Char) : Tree → List (List Char)
  | .node label branches => shown label :: linesOf shown branches

def linesOf (shown : Label → List Char) : List Tree → List (List Char)
  | [] => []
  | [last] => hang "└── " "    " (last.lines shown)
  | tree :: next :: rest => hang "├── " "│   " (tree.lines shown) ++ linesOf shown (next :: rest)

end

end Tree

/-! ## Documents -/

/-- A table; every row has as many texts as there are headings. -/
structure Table where
  title : String
  headings : List String
  rows : List (List String)
deriving DecidableEq, Repr

/-- What is printed at a time. -/
inductive Document where
  | line (text : String)
  /-- A line with tags. -/
  | tagged (text : String)
  /-- The tree that begins at a place. -/
  | tree (forest : Forest) (place : Nat)
  | table (table : Table)
  /-- A note on the course of the work. -/
  | note (text : String)
deriving DecidableEq, Repr

/-- The texts of a document that have tags. -/
def Document.taggedTexts : Document → List String
  | .tagged text => [text]
  | .tree forest _ => forest.filterMap fun node =>
    match node.label with
    | .tagged text => some text
    | .plain _ => none
  | .line _ | .table _ | .note _ => []

/-! ## Printers -/

/-- The cells of a line of the terminal. -/
def terminalWidth : Nat := 80

/-- Lines as they are printed, each with its line end. -/
def printLines (lines : List (List Char)) : String :=
  String.ofList (lines.flatMap (· ++ ['\n']))

/-- A printer, and the faults that it may find. -/
structure Printer (Fault : Type) where
  /-- What is printed of a document. -/
  print : Document → Except Fault String
  /-- What is shown of a text with tags. -/
  untagged : String → Except Fault (List Char)
  /-- The cells that a text takes. -/
  width : List Char → Nat

namespace Printer

variable {Fault : Type} (printer : Printer Fault)

/-- What is shown of a label. -/
def shown : Label → Except Fault (List Char)
  | .plain text => .ok text.toList
  | .tagged text => printer.untagged text

/-- A visible character of ASCII. -/
def IsVisible (c : Char) : Prop := '!' ≤ c ∧ c ≤ '~'

instance : DecidablePred IsVisible := fun c => inferInstanceAs (Decidable ('!' ≤ c ∧ c ≤ '~'))

/-- A text that a printer has no reason to change when there is room for it: it begins with a visible
character, has no control characters and does not end with a blank. -/
structure IsClear (text : List Char) : Prop where
  visible : ∃ c ∈ text.head?, IsVisible c
  no_control : ∀ c ∈ text, 0x20 ≤ c.toNat
  no_blank : ∀ c ∈ text.getLast?, Text.isBlank c = false

/-- What is relied on of the cells that texts take. -/
structure CountsCells : Prop where
  /-- A guide takes four cells. -/
  width_guide : ∀ guide ∈ ["├── ", "│   ", "└── ", "    "], printer.width guide.toList = 4
  /-- Behind a blank a text takes the cells that it takes by itself. -/
  width_blank : ∀ front text, printer.width (front ++ [' ']) + printer.width text
    ≤ printer.width (front ++ ' ' :: text)
  /-- A visible character takes a cell in front of a text. -/
  width_visible : ∀ c text, IsVisible c → 1 + printer.width text ≤ printer.width (c :: text)

/-- What is relied on where a tree is drawn. -/
structure DrawsTrees : Prop extends printer.CountsCells where
  untagged_bold : printer.untagged "[bold]AND[/bold]" = .ok "AND".toList
  /-- A tree is printed as it is pictured, if all its lines fit. -/
  print_tree : ∀ forest place tree (shown : Label → List Char),
    Forest.tree? forest place = some tree →
    (∀ label ∈ tree.labels, printer.shown label = .ok (shown label) ∧ IsClear (shown label)) →
    (∀ line ∈ tree.lines shown, printer.width line ≤ terminalWidth) →
    printer.print (.tree forest place) = .ok (printLines (tree.lines shown))

/-- What is relied on where it matters only that something is printed. -/
structure Prints : Prop where
  untagged_bold : printer.untagged "[bold]AND[/bold]" = .ok "AND".toList
  /-- Without an opening bracket there is no tag. -/
  untagged_plain : ∀ text : String, '[' ∉ text.toList → ∃ shown, printer.untagged text = .ok shown
  /-- A document is printed if its tags can be understood. -/
  print : ∀ document : Document,
    (∀ text ∈ document.taggedTexts, ∃ shown, printer.untagged text = .ok shown) →
    ∃ out, printer.print document = .ok out

end Printer

end FilterQuery.Console
