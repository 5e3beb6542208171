/-
Relations and the values that suit them.

Before a predicate is built, the operator is checked against the kind and the number of the values,
and only then translated into a relation: to equal null becomes to be null. What may reach a
predicate is therefore not said anywhere in one place. `Relation.Suits` says it: a null check is for
one null, a membership for any values, and every other comparison for one value that is not null,
which for a substring comparison is a string.

The check and the translation together give nothing else (`suits_relation`). In the other direction,
a comparison that suits its values passes the check under its own name and is translated into
itself (`mismatch?_of_suits`, `relation_of_suits`). So every relation that suits its values can be
written with an operator that means it (`exists_operator_of_suits`).
-/
import FilterQuery.Proofs.Reading

set_option autoImplicit false

namespace FilterQuery

/-- Whether a relation suits values of a kind, several of them or one. -/
def Relation.Suits (relation : Relation) (kind : Kind) (isList : Bool) : Prop :=
  match relation with
  | .nullCheck _ => kind = .null ∧ isList = false
  | .comparison op =>
    op.isSet = true ∨ isList = false ∧ kind ≠ .null ∧ (op = .like → kind = .string)

/-- The operator that a relation is written with. To be null needs none: it is what null by itself
means. -/
def Relation.operator? : Relation → Option String
  | .comparison op => some op.token
  | .nullCheck .isNull => none
  | .nullCheck .isNotNull => some Comparison.notEqual.token

namespace Filter

/-! ## The check and the translation -/

/-- An operator passes the check when its three rules are kept. -/
theorem mismatch?_eq_none_iff {op : Operator} {isList : Bool} {kind : Kind} :
    mismatch? op isList kind = none ↔
      (isList = true → op.isSet = true) ∧ (kind = .null → op.excludesNull = false) ∧
        (op = .comparison .like → kind = .null ∨ kind = .string) := by
  unfold mismatch?
  split
  · next hlist =>
      simp only [Bool.and_eq_true, Bool.not_eq_true'] at hlist
      simp [hlist]
  · next hlist =>
      have hset : isList = true → op.isSet = true := by simpa using hlist
      rw [and_iff_right hset]
      cases kind <;> simp

/-- Only null changes the meaning of a comparison. -/
theorem relation_of_ne_null {kind : Kind} (hkind : kind ≠ .null) (op : Comparison) :
    relation (.comparison op) kind = .comparison op := by
  cases kind with
  | null => exact absurd rfl hkind
  | _ => cases op <;> rfl

/-- With null, equality and inequality become checks, and no ordering gets past the check. -/
theorem suits_relation_null {op : Operator} {isList : Bool}
    (hone : op.isSet = false → isList = false) (hnull : op.excludesNull = false) :
    (relation op .null).Suits .null isList := by
  cases op with
  | isNull => exact ⟨rfl, hone rfl⟩
  | comparison op =>
      cases op with
      | equal => exact ⟨rfl, hone rfl⟩
      | notEqual => exact ⟨rfl, hone rfl⟩
      | oneOf => exact .inl rfl
      | noneOf => exact .inl rfl
      | greater => cases hnull
      | atLeast => cases hnull
      | less => cases hnull
      | atMost => cases hnull
      | like => cases hnull

/-- **What passes the check is translated into a relation that suits the values.** -/
theorem suits_relation {op : Operator} {isList : Bool} {kind : Kind}
    (h : mismatch? op isList kind = none) : (relation op kind).Suits kind isList := by
  obtain ⟨hlist, hnull, hlike⟩ := mismatch?_eq_none_iff.1 h
  have hone : op.isSet = false → isList = false := by
    intro hset
    rw [hset] at hlist
    simpa using hlist
  by_cases hkind : kind = .null
  · subst hkind
    exact suits_relation_null hone (hnull rfl)
  · cases op with
    | isNull =>
        -- No check for null is in force here, but the translation has an answer all the same.
        have hrelation : relation .isNull kind = .comparison .equal := by
          cases kind with
          | null => exact absurd rfl hkind
          | _ => rfl
        rw [hrelation]
        exact .inr ⟨hone rfl, hkind, by intro h; cases h⟩
    | comparison op =>
        rw [relation_of_ne_null hkind]
        cases hset : op.isSet with
        | true => exact .inl hset
        | false =>
            refine .inr ⟨hone hset, hkind, ?_⟩
            rintro rfl
            exact (hlike rfl).resolve_left hkind

/-- **A comparison that suits its values passes the check.** -/
theorem mismatch?_of_suits {op : Comparison} {isList : Bool} {kind : Kind}
    (h : (Relation.comparison op).Suits kind isList) :
    mismatch? (.comparison op) isList kind = none := by
  rw [mismatch?_eq_none_iff]
  rcases h with hset | ⟨hlist, hkind, hlike⟩
  · refine ⟨fun _ => hset, fun _ => ?_, ?_⟩
    · cases op with
      | oneOf => rfl
      | noneOf => rfl
      | _ => cases hset
    · intro hop
      cases hop
      cases hset
  · refine ⟨fun h => absurd (hlist.symm.trans h) Bool.false_ne_true, fun h => absurd h hkind, ?_⟩
    intro hop
    exact .inr (hlike (Operator.comparison.inj hop))

/-- **A comparison that suits its values is translated into itself.** -/
theorem relation_of_suits {op : Comparison} {isList : Bool} {kind : Kind}
    (h : (Relation.comparison op).Suits kind isList) :
    relation (.comparison op) kind = .comparison op := by
  rcases h with hset | ⟨-, hkind, -⟩
  · cases op with
    | oneOf => cases kind <;> rfl
    | noneOf => cases kind <;> rfl
    | _ => cases hset
  · exact relation_of_ne_null hkind op

/-! ## Operators for relations -/

/-- **The operator that a relation is written with means it**, for values that it suits. -/
theorem exists_operator_of_suits {relation : Relation} {isList : Bool} {kind : Kind}
    (h : relation.Suits kind isList) :
    ∃ op, resolve relation.operator? isList kind = .ok op ∧ mismatch? op isList kind = none ∧
      Filter.relation op kind = relation := by
  cases relation with
  | comparison op =>
      refine ⟨.comparison op, ?_, mismatch?_of_suits h, relation_of_suits h⟩
      rw [Relation.operator?, resolve, Comparison.ofToken?_token]
  | nullCheck check =>
      obtain ⟨rfl, rfl⟩ := h
      cases check with
      | isNull => exact ⟨.isNull, rfl, rfl, rfl⟩
      | isNotNull =>
          refine ⟨.comparison .notEqual, ?_, rfl, rfl⟩
          rw [Relation.operator?, resolve, Comparison.ofToken?_token]

/-! ## In the course of reading -/

namespace Course

variable {settings : Settings} {f : Filter}

theorem suits (c : Course settings f) : c.relation.Suits c.kind f.value.isList :=
  suits_relation c.mismatch?_eq

/-- A value that is not a list is one text, and read as one value. -/
theorem exists_text_of_not_isList (c : Course settings f) (h : f.value.isList = false) :
    c.rest = [] ∧ ∃ t, f.value = .one t ∧ Kind.ofValue settings t = c.kind ∧
      c.kind.readOne t = .ok c.first := by
  cases hvalue : f.value with
  | many texts =>
      rw [hvalue] at h
      cases h
  | one t =>
      have hkind := c.ofValue_eq
      have hread := c.read_eq
      rw [hvalue, ParamValue.texts] at hkind hread
      obtain ⟨v, values, hv, hvalues, heq⟩ :=
        List.forall₂_cons_left_iff.1 (Kind.read_eq_ok_iff.1 hread)
      rw [List.forall₂_nil_left_iff.1 hvalues] at heq
      obtain ⟨hfirst, hrest⟩ := List.cons.inj heq
      rw [← hfirst] at hv
      exact ⟨hrest, t, rfl, hkind t List.mem_cons_self, hv⟩

/-- Every value found is a value of the kind found, read from one of the texts. -/
theorem isValue (c : Course settings f) : ∀ v ∈ c.first :: c.rest,
    c.kind.IsValue settings v ∧ ∃ t ∈ f.value.texts, c.kind.readOne t = .ok v :=
  Kind.exists_mem_of_mem_read c.ofValue_eq c.read_eq

end Course

end Filter

end FilterQuery
