/-
The tree that grows is the tree that is meant.

The builder of a drawing changes a forest as it goes, and its calls depend on each other through what
they change: the second part of an AND is put below a node that the first part was put below already.
What comes of a call is told here by the forest alone. The node above has one more place below it, and
behind everything that was there stand the nodes of the predicate, in the order of their making and
with the places that they have then (`grow_eq`). Nothing else is touched.

Read from the place of the first node, the forest is the tree that the predicate is meant to be
(`tree?_planted`). So the builder does not drop a node, make one twice or put one below a wrong node,
whichever way it hands its nodes back.
-/
import FilterQuery.Predicate.Drawing
import Mathlib.Data.List.Basic

set_option autoImplicit false

namespace FilterQuery.Predicate

open Console Unwritable

/-! ## What is meant -/

section

variable (settings : Settings)

/-- A predicate as a tree. -/
def tree : Predicate → Tree
  | .both left right => .node andLabel [left.tree, right.tree]
  | leaf => .node (.plain ((leaf.toDatum settings).toJson .all)) []

/-- The trees that begin at the nodes of a predicate, from the first node on. -/
def subtrees : Predicate → List Tree
  | .both left right =>
    (both left right).tree settings :: (left.subtrees ++ right.subtrees)
  | leaf => [leaf.tree settings]

/-- The nodes that are made for a predicate when the first of them has this place. -/
def planted : (place : Nat) → Predicate → Forest
  | place, .both left right =>
    let between := place + 1 + (left.subtrees settings).length
    ⟨andLabel, [place + 1, between]⟩ :: (planted (place + 1) left ++ planted between right)
  | _, leaf => [⟨.plain ((leaf.toDatum settings).toJson .all), []⟩]

/-- How many calls are nested in drawing a predicate. -/
def drawingCalls : Predicate → Nat
  | .both left right => max left.drawingCalls right.drawingCalls + 1
  | leaf => (leaf.toDatum settings).nesting + 1

end

variable {settings : Settings}

theorem exists_subtrees_eq (p : Predicate) :
    ∃ others, p.subtrees settings = p.tree settings :: others := by
  cases p <;> exact ⟨_, rfl⟩

theorem length_planted (place : Nat) (p : Predicate) :
    (p.planted settings place).length = (p.subtrees settings).length := by
  induction p generalizing place with
  | both left right ihleft ihright =>
      rw [planted, subtrees, List.length_cons, List.length_cons, List.length_append,
        List.length_append, ihleft, ihright]
  | _ => rfl

/-! ## Growing -/

/-- The forest when the next node is to be put below one of it. -/
def prepared (parent? : Option Nat) (forest : Forest) : Forest :=
  match parent? with
  | none => forest
  | some parent =>
    forest.modify parent fun node => { node with below := node.below ++ [forest.length] }

/-- What is handed back for a predicate whose first node has this place. -/
def handedBack (p : Predicate) (parent? : Option Nat) (place : Nat) : Nat :=
  match p with
  | .both _ _ => place
  | _ => parent?.getD place

theorem length_prepared (parent? : Option Nat) (forest : Forest) :
    (prepared parent? forest).length = forest.length := by
  cases parent? with
  | none => rfl
  | some parent => exact List.length_modify ..

theorem modify_append_cons {α : Type} (front : List α) (a : α) (back : List α) (f : α → α) :
    (front ++ a :: back).modify front.length f = front ++ f a :: back := by
  simp [List.modify_eq_set_getElem?]

theorem plantBelow_eq {parent? : Option Nat} {forest : Forest}
    (hparent : ∀ parent ∈ parent?, parent < forest.length) (label : Label) :
    plantBelow parent? label forest
      = (forest.length, prepared parent? forest ++ [⟨label, []⟩]) := by
  cases parent? with
  | none => rfl
  | some parent =>
      -- The node above stands somewhere before the new one.
      have hlt : parent < forest.length := hparent parent rfl
      obtain ⟨front, node, back, rfl, rfl⟩ :
          ∃ front node back, forest = front ++ node :: back ∧ parent = front.length :=
        ⟨forest.take parent, forest[parent], forest.drop (parent + 1), by simp,
          by rw [List.length_take, Nat.min_eq_left (Nat.le_of_lt hlt)]⟩
      rw [plantBelow, Forest.add, Forest.plant, prepared, modify_append_cons, List.append_assoc,
        List.cons_append]
      dsimp only
      rw [modify_append_cons, List.append_assoc, List.cons_append]

/-- A node that was just planted, with one more below it. -/
theorem prepared_concat (front : Forest) (node : Node) (later : Forest) :
    prepared (some front.length) (front ++ node :: later)
      = front ++ ⟨node.label, node.below ++ [front.length + 1 + later.length]⟩ :: later := by
  have hplace : (front ++ node :: later).length = front.length + 1 + later.length := by
    rw [List.length_append, List.length_cons]
    omega
  rw [prepared, modify_append_cons, hplace]

theorem nesting_pos {p : Predicate} : 0 < (p.toDatum settings).nesting := by
  cases p <;> exact Nat.succ_pos _

/-- A single condition is rendered if there is room for its lists and records. -/
theorem renderJson_of_depth_eq_zero {p : Predicate} (hp : p.isWritable = true)
    (hleaf : p.depth = 0) (room : Nat) : p.renderJson .all settings room
      = if (p.toDatum settings).nesting ≤ room then .ok (Json.ofDatum .all (p.toDatum settings))
        else .error (if room = 0 then .tooManyCalls else .tooDeep) := by
  have hpos := @nesting_pos settings p
  rw [renderJson_of_isWritable hp, hleaf, unlessFits]
  cases room with
  | zero => rw [if_neg (by omega), if_neg (by omega), if_pos rfl]
  | succ room => rw [if_pos (by omega), if_neg (Nat.succ_ne_zero room)]

/-- **What growing a predicate does to a forest**: its nodes stand behind those that were there, and
the node above knows of them. -/
theorem grow_eq {p : Predicate} (hp : p.isWritable = true) {room : Nat}
    (hroom : p.drawingCalls settings ≤ room) {parent? : Option Nat} {forest : Forest}
    (hparent : ∀ parent ∈ parent?, parent < forest.length) :
    p.grow settings room parent? forest
      = .ok (p.handedBack parent? forest.length,
          prepared parent? forest ++ p.planted settings forest.length) := by
  induction p generalizing room parent? forest with
  | both left right ihleft ihright =>
      rw [isWritable, Bool.and_eq_true] at hp
      obtain ⟨room, rfl⟩ := Nat.exists_eq_succ_of_ne_zero (Nat.ne_zero_of_lt hroom)
      rw [drawingCalls, Nat.succ_le_succ_iff, Nat.max_le] at hroom
      rw [grow, plantBelow_eq hparent]
      -- From here on, only the new node and what is put below it will change.
      generalize hfront : prepared parent? forest = front
      have hlength : front.length = forest.length := by rw [← hfront, length_prepared]
      rw [← hlength]
      dsimp only
      have hleft : left.grow settings room (some front.length) (front ++ [⟨andLabel, []⟩])
          = .ok (left.handedBack (some front.length) (front.length + 1),
              front ++ ⟨andLabel, [front.length + 1]⟩ ::
                left.planted settings (front.length + 1)) := by
        rw [ihleft hp.1 hroom.1 (by simp), prepared_concat, List.length_append,
          List.length_singleton, List.append_assoc]
        rfl
      rw [hleft]
      have hright : right.grow settings room (some front.length)
          (front ++ ⟨andLabel, [front.length + 1]⟩ :: left.planted settings (front.length + 1))
          = .ok (right.handedBack (some front.length)
              (front.length + 1 + (left.subtrees settings).length),
              front ++ (both left right).planted settings front.length) := by
        have hplace : (front ++ ⟨andLabel, [front.length + 1]⟩ ::
            left.planted settings (front.length + 1)).length
              = front.length + 1 + (left.subtrees settings).length := by
          rw [List.length_append, List.length_cons, length_planted]
          omega
        rw [ihright hp.2 hroom.2 (by simp), prepared_concat, hplace, length_planted,
          List.append_assoc]
        rfl
      dsimp only [bind, Except.bind]
      rw [hright]
      rfl
  | _ =>
      obtain ⟨room, rfl⟩ := Nat.exists_eq_succ_of_ne_zero (Nat.ne_zero_of_lt hroom)
      rw [drawingCalls, Nat.succ_le_succ_iff] at hroom
      rw [grow, renderJson_of_depth_eq_zero hp rfl, if_pos hroom]
      · dsimp only [bind, Except.bind]
        rw [plantBelow_eq hparent]
        rfl
      all_goals exact fun _ _ h => by cases h

theorem exists_grow_eq_error {p : Predicate} (hp : p.isWritable = true) {room : Nat}
    (hroom : room < p.drawingCalls settings) {parent? : Option Nat} {forest : Forest}
    (hparent : ∀ parent ∈ parent?, parent < forest.length) :
    ∃ failure, failure ≠ .tooManyDigits ∧
      p.grow settings room parent? forest = .error failure := by
  induction p generalizing room parent? forest with
  | both left right ihleft ihright =>
      rw [isWritable, Bool.and_eq_true] at hp
      cases room with
      | zero => exact ⟨.tooManyCalls, by decide, rfl⟩
      | succ room =>
          rw [grow, plantBelow_eq hparent]
          dsimp only
          rw [← length_prepared parent? forest]
          by_cases hleft : left.drawingCalls settings ≤ room
          · have hright : room < right.drawingCalls settings := by
              rw [drawingCalls] at hroom
              omega
            -- The left part has grown when the right one turns out to be too deep.
            rw [grow_eq hp.1 hleft (by simp)]
            dsimp only [bind, Except.bind]
            generalize hgrown : prepared (some _) _ ++ left.planted settings _ = grown
            have hnode : ∀ parent ∈ some (prepared parent? forest).length,
                parent < grown.length := by
              rw [← hgrown]
              simp [length_prepared]
              omega
            obtain ⟨failure, hfailure, hgrow⟩ := ihright hp.2 hright hnode
            exact ⟨failure, hfailure, by rw [hgrow]⟩
          · have hnode : ∀ parent ∈ some (prepared parent? forest).length,
                parent < (prepared parent? forest ++ [({ label := andLabel } : Node)]).length := by
              simp
            obtain ⟨failure, hfailure, hgrow⟩ := ihleft hp.1 (Nat.lt_of_not_le hleft) hnode
            exact ⟨failure, hfailure, by rw [hgrow]; rfl⟩
  | _ =>
      cases room with
      | zero => exact ⟨.tooManyCalls, by decide, rfl⟩
      | succ room =>
          rw [drawingCalls, Nat.succ_lt_succ_iff] at hroom
          rw [grow, renderJson_of_depth_eq_zero hp rfl, if_neg (Nat.not_le.2 hroom)]
          · refine ⟨_, ?_, rfl⟩
            split <;> decide
          all_goals exact fun _ _ h => by cases h

/-- **A predicate is drawn** if there is room for the calls. -/
theorem drawing_eq {p : Predicate} (hp : p.isWritable = true) {room : Nat}
    (hroom : p.drawingCalls settings ≤ room) :
    p.drawing settings room = .ok (.tree (p.planted settings 0) 0) := by
  rw [drawing, grow_eq hp hroom (by simp)]
  cases p <;> rfl

theorem exists_drawing_eq_error {p : Predicate} (hp : p.isWritable = true) {room : Nat}
    (hroom : room < p.drawingCalls settings) :
    ∃ failure, failure ≠ .tooManyDigits ∧ p.drawing settings room = .error failure := by
  have hnone : ∀ parent ∈ none, parent < List.length ([] : Forest) := by simp
  obtain ⟨failure, hfailure, hgrow⟩ := exists_grow_eq_error hp hroom hnone
  exact ⟨failure, hfailure, by rw [drawing, hgrow]; rfl⟩

/-! ## What has grown -/

/-- **The nodes that were planted are those of the tree.** -/
theorem treesFrom_planted (p : Predicate) (place : Nat) (later : Forest) :
    Forest.treesFrom place (p.planted settings place ++ later)
      = p.subtrees settings ++
          Forest.treesFrom (place + (p.subtrees settings).length) later := by
  induction p generalizing place later with
  | both left right ihleft ihright =>
      obtain ⟨lefts, hleft⟩ := @exists_subtrees_eq settings left
      obtain ⟨rights, hright⟩ := @exists_subtrees_eq settings right
      have hlength : place + ((both left right).subtrees settings).length
          = place + 1 + (left.subtrees settings).length + (right.subtrees settings).length := by
        rw [subtrees, List.length_cons, List.length_append]
        omega
      rw [planted, List.cons_append, Forest.treesFrom, List.append_assoc, ihleft, ihright, hlength]
      generalize Forest.treesFrom _ later = others
      -- The trees of the two parts are found where the AND says that they begin.
      have hfirst : (left.subtrees settings ++ (right.subtrees settings ++ others))[0]?
          = some (left.tree settings) := by
        rw [hleft]
        rfl
      have hsecond : (left.subtrees settings ++
          (right.subtrees settings ++ others))[(left.subtrees settings).length]?
          = some (right.tree settings) := by
        rw [List.getElem?_append_right (Nat.le_refl _), Nat.sub_self, hright]
        rfl
      have hplace : place < place + 1 + (left.subtrees settings).length := by omega
      simp [hplace, hfirst, hsecond, subtrees, tree]
  | _ => rfl

theorem tree?_planted (p : Predicate) :
    Forest.tree? (p.planted settings 0) 0 = some (p.tree settings) := by
  obtain ⟨others, hsubtrees⟩ := @exists_subtrees_eq settings p
  have htrees := @treesFrom_planted settings p 0 []
  rw [List.append_nil] at htrees
  rw [Forest.tree?, htrees, hsubtrees]
  rfl

/-- The tags in a tree are those of its ANDs. -/
theorem eq_of_mem_taggedTexts {p : Predicate} {place root : Nat} :
    ∀ text ∈ (Document.tree (p.planted settings place) root).taggedTexts,
      text = "[bold]AND[/bold]" := by
  have hlabel : ∀ node ∈ p.planted settings place,
      node.label = andLabel ∨ ∃ text, node.label = .plain text := by
    induction p generalizing place with
    | both left right ihleft ihright =>
        rw [planted]
        exact List.forall_mem_cons.2 ⟨.inl rfl, List.forall_mem_append.2 ⟨ihleft, ihright⟩⟩
    | _ => exact List.forall_mem_singleton.2 (.inr ⟨_, rfl⟩)
  intro text htext
  obtain ⟨node, hnode, htagged⟩ := List.mem_filterMap.1 htext
  rcases hlabel node hnode with hand | ⟨plain, hplain⟩
  · rw [hand] at htagged
    exact (Option.some.inj htagged).symm
  · rw [hplain] at htagged
    cases htagged

end FilterQuery.Predicate
