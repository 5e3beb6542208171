/-
Predicates built as trees to be printed.

An AND is a node, and a condition on a field is one as well, labelled with its JSON text. The tree
grows by being changed: what is given along is the node to put the next one below, or none for the
first. What is handed back depends on the predicate. It is the node of an AND, but for a single
condition the one above it, unless there is none.

Each AND is gone into by a call of its own, and a condition is rendered within the call for it, so
there has to be room for the calls (`Predicate.drawingCalls`).
-/
import FilterQuery.Console
import FilterQuery.Predicate.Rendering

set_option autoImplicit false

namespace FilterQuery.Predicate

open Console Unwritable

/-- The label of an AND. -/
def andLabel : Label := .tagged "[bold]AND[/bold]"

/-- Makes a node, below another one if there is one. -/
def plantBelow (parent? : Option Nat) (label : Label) (forest : Forest) : Nat × Forest :=
  match parent? with
  | none => forest.plant label
  | some parent => forest.add parent label

/-- Grows a predicate, by at most `room` calls in one another: below a node, or as a tree of its
own. -/
def grow (settings : Settings) :
    (room : Nat) → Predicate → (parent? : Option Nat) → Forest → Except Unwritable (Nat × Forest)
  | 0, _, _, _ => .error .tooManyCalls
  | room + 1, .both left right, parent?, forest => do
    let (node, forest) := plantBelow parent? andLabel forest
    let (_, forest) ← grow settings room left (some node) forest
    let (_, forest) ← grow settings room right (some node) forest
    return (node, forest)
  | room + 1, leaf, parent?, forest => do
    let text ← leaf.renderJson .all settings room
    let (node, forest) := plantBelow parent? (.plain (String.ofList text)) forest
    return (parent?.getD node, forest)

/-- A predicate as a document. -/
def drawing (settings : Settings) (room : Nat) (p : Predicate) : Except Unwritable Document := do
  let (root, forest) ← p.grow settings room none []
  return .tree forest root

end FilterQuery.Predicate
