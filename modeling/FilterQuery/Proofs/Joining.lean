/-
Joining predicates of any shape.

The predicates that are joined need not be conditions on single fields: each may be a tree already.
Joining still keeps their order and adds one join for each after the first, so what is known of the
members is known of the whole (`JoinsInOrder`). Conditions, parameters and whether they can be written
are gathered from left to right. The joins form the left spine, with the members hanging from it in
reverse, and that gives the depth: a member lies as deep as there are joins above it, which are fewer
the later it was joined.

Everything here goes back to two facts, that a chain is extended at its end by one join
(`chain_append_singleton`), and that the first two members may be joined beforehand.
-/
import FilterQuery.Predicate.Rendering
import FilterQuery.Proofs.Chain
import Mathlib.Data.Finset.Lattice.Fold
import Mathlib.Data.Fintype.Basic
import Mathlib.Order.Lattice.Nat

set_option autoImplicit false

namespace FilterQuery.Predicate

/-! ## What is gathered from the members -/

theorem isWritable_chain (first : Predicate) (others : List Predicate) :
    (chain first others).isWritable = (first :: others).all isWritable := by
  induction others using List.reverseRecOn with
  | nil => simp [chain]
  | append_singleton others p ih =>
      rw [chain_append_singleton, isWritable, ih, ← List.cons_append, List.all_append]
      simp

/-! ## The joins -/

/-- The left spine of a predicate: what hangs from its joins, the outermost first, and what it ends
in. -/
inductive LeftSpine : Predicate → List Predicate → Predicate → Prop
  | base (p : Predicate) : LeftSpine p [] p
  | join {left base : Predicate} {rights : List Predicate} (hleft : LeftSpine left rights base)
      (right : Predicate) : LeftSpine (.both left right) (right :: rights) base

theorem leftSpine_chain (first : Predicate) (others : List Predicate) :
    LeftSpine (chain first others) others.reverse first := by
  induction others using List.reverseRecOn with
  | nil => exact .base first
  | append_singleton others p ih =>
      rw [chain_append_singleton, List.reverse_append]
      exact .join ih p

/-- How deep each member lies. The induction joins the first two members beforehand, so the spine
above all others is as it was. -/
theorem depth_chain_le_iff (first : Predicate) (others : List Predicate) (d : Nat) :
    (chain first others).depth ≤ d ↔
      first.depth + others.length ≤ d ∧
        ∀ i, ∀ hi : i < others.length, others[i].depth + (others.length - i) ≤ d := by
  induction others generalizing first with
  | nil => simp [chain]
  | cons p others ih =>
      have hchain : chain first (p :: others) = chain (.both first p) others := rfl
      rw [hchain, ih (.both first p), depth]
      simp only [List.length_cons]
      -- the second member is joined already on the left, and the first of the others on the right
      constructor
      · rintro ⟨hjoin, hothers⟩
        refine ⟨by omega, ?_⟩
        intro i hi
        cases i with
        | zero =>
            rw [List.getElem_cons_zero]
            omega
        | succ i =>
            have hbound := hothers i (by omega)
            rw [List.getElem_cons_succ]
            omega
      · rintro ⟨hfirst, hothers⟩
        have hp := hothers 0 (by omega)
        rw [List.getElem_cons_zero] at hp
        refine ⟨by omega, ?_⟩
        intro i hi
        have hbound := hothers (i + 1) (by omega)
        rw [List.getElem_cons_succ] at hbound
        omega

/-- **The depth of a chain** is that of the member which lies deepest. -/
theorem depth_chain (first : Predicate) (others : List Predicate) :
    (chain first others).depth
      = max (first.depth + others.length)
          (Finset.univ.sup fun i : Fin others.length => others[i].depth + (others.length - i)) := by
  refine eq_of_forall_ge_iff (fun d => ?_)
  rw [depth_chain_le_iff, max_le_iff, Finset.sup_le_iff]
  refine and_congr_right fun _ => ?_
  constructor
  · intro h i _
    exact h i i.isLt
  · intro h i hi
    exact h ⟨i, hi⟩ (Finset.mem_univ _)

-- the last member is joined by one join only, and still lies deepest
example : let leaf := nullCheck .isNull "a"
    (chain leaf [leaf, .both (.both leaf leaf) leaf]).depth = 3 := by decide

/-! ## Joining -/

theorem combine_eq_error_iff {ps : List Predicate} {e : Misuse} :
    combine ps = .error e ↔ ps = [] ∧ e = .noPredicates := by
  cases ps with
  | nil => simp [combine, eq_comm]
  | cons first others => simp [combine]

/-- What joining gives, in terms of the members. -/
structure JoinsInOrder (first : Predicate) (others : List Predicate) (t : Predicate) : Prop where
  leaves : t.leaves = (first :: others).flatMap Predicate.leaves
  spine : LeftSpine t others.reverse first
  depth : t.depth = max (first.depth + others.length)
    (Finset.univ.sup fun i : Fin others.length => others[i].depth + (others.length - i))
  depth_of_isLeaf : (∀ p ∈ first :: others, p.IsLeaf) → t.depth = others.length
  parameters : ∀ settings,
    t.parameters settings = (first :: others).flatMap (Predicate.parameters settings)
  isWritable : t.isWritable = (first :: others).all Predicate.isWritable
  more : ∀ more, combine (first :: others ++ more) = combine (t :: more)

theorem depth_chain_of_isLeaf {first : Predicate} {others : List Predicate}
    (hleaves : ∀ p ∈ first :: others, p.IsLeaf) : (chain first others).depth = others.length := by
  obtain ⟨hleaning, hmembers⟩ := combine_of_isLeaf hleaves rfl
  have hdepth := hleaning.depth_add_one
  rw [hmembers, List.length_cons] at hdepth
  omega

/-- **Predicates of any shape are joined in order**, and only the lack of a predicate is a reason not
to join. -/
theorem combine_joins_in_order :
    (∀ ps e, combine ps = .error e ↔ ps = [] ∧ e = .noPredicates) ∧
      ∀ first others, ∃ t, combine (first :: others) = .ok t ∧ JoinsInOrder first others t := by
  refine ⟨fun _ _ => combine_eq_error_iff, ?_⟩
  intro first others
  refine ⟨chain first others, rfl, ?_⟩
  exact {
    leaves := leaves_chain first others
    spine := leftSpine_chain first others
    depth := depth_chain first others
    depth_of_isLeaf := depth_chain_of_isLeaf
    parameters := fun settings =>
      flatMap_chain (f := Predicate.parameters settings) (fun _ _ => rfl) first others
    isWritable := isWritable_chain first others
    more := fun more => congrArg Except.ok (chain_append first others more) }

end FilterQuery.Predicate
