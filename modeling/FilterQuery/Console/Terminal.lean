/-
A printer for a terminal without colours.

Lines and tables are laid out as described in their own modules. The label of a node of a tree is
wrapped to the cells that the guides before it leave, and the lines below its first one hang on the
guides that the nodes below it would have. Where the guides leave no cell, a label is not printed at
all. Notes are printed as they are.
-/
import FilterQuery.Console.Markup
import FilterQuery.Console.Table

set_option autoImplicit false

namespace FilterQuery.Console.Terminal

open Markup

/-- What is shown of a text with tags. -/
def untagged (text : String) : Except Fault (List Char) := do
  let reading ← Markup.read text.toList
  return reading.chars

/-- The lines of a label that is shown so, with `room` cells to a line. -/
def labelLines (room : Nat) (shown : List Char) : Except Fault (List (List Char)) :=
  if room = 0 then .ok [] else (wrap room .fold shown).mapError .uncut

/-- What is shown of a label. -/
def shown : Label → Except Fault (List Char)
  | .plain text => .ok text.toList
  | .tagged text => untagged text

mutual

/-- The lines of a tree, with `room` cells to a line. -/
def treeLines (room : Nat) : Tree → Except Fault (List (List Char))
  | .node label branches => do
    let first ← labelLines room (← shown label)
    let others ← branchLines (room - 4) branches
    return first ++ others

/-- The lines of the parts of a tree, which have `room` cells behind their guides. -/
def branchLines (room : Nat) : List Tree → Except Fault (List (List Char))
  | [] => .ok []
  | [last] => do
    let lines ← treeLines room last
    return hang "└── " "    " lines
  | tree :: next :: rest => do
    let lines ← treeLines room tree
    let others ← branchLines room (next :: rest)
    return hang "├── " "│   " lines ++ others

end

/-- What is printed of a document. -/
def print : Document → Except Fault String
  | .line text => (Notable.printed text.toList).mapError .uncut
  | .tagged text => Markup.printed text.toList
  | .tree forest place =>
    match forest.tree? place with
    | none => .ok ""
    | some tree => printLines <$> treeLines terminalWidth tree
  | .table table => printLines <$> (table.draw terminalWidth).mapError .uncut
  | .note text => .ok (printLines [text.toList])

/-- The printer. -/
def printer : Printer Fault where
  print := print
  untagged := untagged
  width := width

end FilterQuery.Console.Terminal
