/-
The shape of joined predicates.

Joining conditions one after the other gives a chain: whatever is joined to the right is a condition
on a single field. A chain is known by its leaves alone, so joining the leaves of a chain gives the
chain back (`combine_leaves`), and joining the leaves of any other predicate gives the chain that
means the same. Along a chain every join adds one leaf and one level, which is why its depth is one
less than the number of its leaves.
-/
import FilterQuery.Predicate

set_option autoImplicit false

namespace FilterQuery.Predicate

/-! ## Conditions on single fields -/

/-- A predicate that is a condition on a single field. -/
def IsLeaf : Predicate → Prop
  | .both _ _ => False
  | _ => True

instance : DecidablePred IsLeaf
  | .nullCheck _ _ => isTrue trivial
  | .comparison _ _ _ _ => isTrue trivial
  | .both _ _ => isFalse id

theorem leaves_of_isLeaf {p : Predicate} (hp : p.IsLeaf) : p.leaves = [p] := by
  cases p with
  | nullCheck check field => rfl
  | comparison op field first rest => rfl
  | both left right => cases hp

theorem leaves_ne_nil (p : Predicate) : p.leaves ≠ [] := by
  induction p with
  | nullCheck check field => exact List.cons_ne_nil _ _
  | comparison op field first rest => exact List.cons_ne_nil _ _
  | both left right ihleft _ => exact List.append_ne_nil_of_left_ne_nil ihleft _

/-! ## Chains -/

/-- A predicate in which every condition after the first is joined to all before it. -/
def LeftLeaning : Predicate → Prop
  | .both left right => left.LeftLeaning ∧ right.IsLeaf
  | _ => True

instance decidableLeftLeaning : DecidablePred LeftLeaning
  | .nullCheck _ _ => isTrue trivial
  | .comparison _ _ _ _ => isTrue trivial
  | .both left right =>
    have := decidableLeftLeaning left
    inferInstanceAs (Decidable (left.LeftLeaning ∧ right.IsLeaf))

theorem LeftLeaning.of_isLeaf {p : Predicate} (hp : p.IsLeaf) : p.LeftLeaning := by
  cases p with
  | nullCheck check field => trivial
  | comparison op field first rest => trivial
  | both left right => cases hp

theorem LeftLeaning.chain {first : Predicate} {others : List Predicate}
    (hfirst : first.LeftLeaning) (hothers : ∀ p ∈ others, p.IsLeaf) :
    (chain first others).LeftLeaning := by
  induction others generalizing first with
  | nil => exact hfirst
  | cons p others ih =>
      obtain ⟨hp, hothers⟩ := List.forall_mem_cons.1 hothers
      exact ih ⟨hfirst, hp⟩ hothers

theorem chain_append (first : Predicate) (others more : List Predicate) :
    chain first (others ++ more) = chain (chain first others) more :=
  List.foldl_append

theorem chain_append_singleton (first : Predicate) (others : List Predicate) (p : Predicate) :
    chain first (others ++ [p]) = .both (chain first others) p :=
  chain_append first others [p]

/-- **What a join gathers from left to right, a chain gathers from its members.** -/
theorem flatMap_chain {α : Type} {f : Predicate → List α}
    (hf : ∀ left right, f (.both left right) = f left ++ f right) (first : Predicate)
    (others : List Predicate) : f (chain first others) = (first :: others).flatMap f := by
  induction others generalizing first with
  | nil => exact (List.append_nil (f first)).symm
  | cons p others ih =>
      calc f (chain first (p :: others))
          = (.both first p :: others).flatMap f := ih (.both first p)
        _ = f first ++ f p ++ others.flatMap f := by rw [List.flatMap_cons, hf]
        _ = (first :: p :: others).flatMap f := List.append_assoc _ _ _

theorem leaves_chain (first : Predicate) (others : List Predicate) :
    (chain first others).leaves = (first :: others).flatMap leaves :=
  flatMap_chain (fun _ _ => rfl) first others

theorem flatMap_leaves {ps : List Predicate} (hps : ∀ p ∈ ps, p.IsLeaf) : ps.flatMap leaves = ps := by
  induction ps with
  | nil => rfl
  | cons p ps ih =>
      obtain ⟨hp, hps⟩ := List.forall_mem_cons.1 hps
      rw [List.flatMap_cons, leaves_of_isLeaf hp, ih hps, List.singleton_append]

/-- **A chain has one level of AND for each leaf after the first.** -/
theorem LeftLeaning.depth_add_one {t : Predicate} (ht : t.LeftLeaning) :
    t.depth + 1 = t.leaves.length := by
  induction t with
  | nullCheck check field => rfl
  | comparison op field first rest => rfl
  | both left right ihleft _ =>
      obtain ⟨hleft, hright⟩ := ht
      have hdepth : right.depth = 0 := by
        cases right with
        | nullCheck check field => rfl
        | comparison op field first rest => rfl
        | both _ _ => cases hright
      rw [leaves, leaves_of_isLeaf hright, List.length_append, ← ihleft hleft, depth, hdepth]
      simp only [List.length_singleton, Nat.zero_le, Nat.max_eq_left]
      omega

/-! ## Joining -/

theorem exists_combine {ps : List Predicate} (hps : ps ≠ []) : ∃ t, combine ps = .ok t := by
  obtain ⟨first, others, rfl⟩ := List.exists_cons_of_ne_nil hps
  exact ⟨_, rfl⟩

/-- Joining with one more at the end joins it to everything before. -/
theorem combine_append_singleton {ps : List Predicate} {t : Predicate} (ht : combine ps = .ok t)
    (p : Predicate) : combine (ps ++ [p]) = .ok (.both t p) := by
  cases ps with
  | nil => cases ht
  | cons first others =>
      cases ht
      exact congrArg Except.ok (chain_append_singleton first others p)

/-- **Joining conditions gives a chain with these leaves.** -/
theorem combine_of_isLeaf {ps : List Predicate} {t : Predicate} (hps : ∀ p ∈ ps, p.IsLeaf)
    (ht : combine ps = .ok t) : t.LeftLeaning ∧ t.leaves = ps := by
  cases ps with
  | nil => cases ht
  | cons first others =>
      cases ht
      obtain ⟨hfirst, hothers⟩ := List.forall_mem_cons.1 hps
      refine ⟨LeftLeaning.chain (.of_isLeaf hfirst) hothers, ?_⟩
      rw [leaves_chain, flatMap_leaves hps]

/-- **A chain is what joining its leaves gives.** -/
theorem combine_leaves {t : Predicate} (ht : t.LeftLeaning) : combine t.leaves = .ok t := by
  induction t with
  | nullCheck check field => rfl
  | comparison op field first rest => rfl
  | both left right ihleft _ =>
      obtain ⟨hleft, hright⟩ := ht
      rw [leaves, leaves_of_isLeaf hright]
      exact combine_append_singleton (ihleft hleft) right

/-! ## Equality -/

/-- A predicate whose values are scalars. -/
def Plain : Predicate → Prop
  | .nullCheck _ _ => True
  | .comparison _ _ first rest => ∀ v ∈ first :: rest, ∃ s : Scalar, v = .scalar s
  | .both left right => left.Plain ∧ right.Plain

theorem plain_of_leaves {p : Predicate} (hp : ∀ leaf ∈ p.leaves, leaf.Plain) : p.Plain := by
  induction p with
  | nullCheck check field => trivial
  | comparison op field first rest => exact hp _ (List.mem_singleton.2 rfl)
  | both left right ihleft ihright =>
      obtain ⟨hleft, hright⟩ := List.forall_mem_append.1 hp
      exact ⟨ihleft hleft, ihright hright⟩

theorem sameItems_self {values : List Datum} (hvalues : ∀ v ∈ values, ∃ s : Scalar, v = .scalar s) :
    Datum.sameItems values values = true := by
  induction values with
  | nil => rfl
  | cons v values ih =>
      obtain ⟨⟨s, rfl⟩, hrest⟩ := List.forall_mem_cons.1 hvalues
      simp [Datum.sameItems, Datum.same, Scalar.same, ih hrest]

theorem length_eq_of_sameItems {as bs : List Datum} (h : Datum.sameItems as bs = true) :
    as.length = bs.length := by
  induction as generalizing bs with
  | nil =>
      cases bs with
      | nil => rfl
      | cons b bs => cases h
  | cons a as ih =>
      cases bs with
      | nil => cases h
      | cons b bs =>
          rw [Datum.sameItems, Bool.and_eq_true] at h
          rw [List.length_cons, List.length_cons, ih h.2]

/-- A predicate with scalar values equals itself. Records would not do: one with a key twice finds
the wrong entry. -/
theorem same_self {p : Predicate} (hp : p.Plain) : p.same p = true := by
  induction p with
  | nullCheck check field => simp [same]
  | comparison op field first rest => simp [same, sameItems_self hp]
  | both left right ihleft ihright => simp [same, ihleft hp.1, ihright hp.2]

/-- Equal predicates have equally many leaves. -/
theorem length_leaves_of_same {p q : Predicate} (h : p.same q = true) :
    p.leaves.length = q.leaves.length := by
  induction p generalizing q with
  | nullCheck check field =>
      cases q with
      | nullCheck _ _ => rfl
      | comparison _ _ _ _ => cases h
      | both _ _ => cases h
  | comparison op field first rest =>
      cases q with
      | nullCheck _ _ => cases h
      | comparison _ _ _ _ => rfl
      | both _ _ => cases h
  | both left right ihleft ihright =>
      cases q with
      | nullCheck _ _ => cases h
      | comparison _ _ _ _ => cases h
      | both other another =>
          rw [same, Bool.and_eq_true] at h
          rw [leaves, leaves, List.length_append, List.length_append, ihleft h.1, ihright h.2]

end FilterQuery.Predicate
