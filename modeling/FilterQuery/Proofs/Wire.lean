/-
What the data of a predicate tell about it.

A predicate is handed on as a record with one entry, and everything about the predicate has to be
found again in that entry. Its key is the symbol of a relation or the word AND, and no two of these
are alike (`symbol_injective`, `symbol_ne_and`). Under the key of a null check stands a single name,
under that of a comparison a list that begins with one; the key also tells whether the values follow
the name one by one or as a list of their own. The marker in front of the name may be any text, also
an empty one, and is the same on both sides, so it takes nothing away.

So predicates can be compared by their data. This holds for both ways of being alike: for identity,
and for the coarser equality by which `1`, `1.0` and the truth value true are one value.
-/
import FilterQuery.Predicate.Wire

set_option autoImplicit false

namespace FilterQuery

/-! ## The keys -/

namespace Relation

/-- Relations are told apart by their symbols. -/
theorem symbol_injective {r s : Relation} (h : r.symbol = s.symbol) : r = s := by
  have hsymbol := ofSymbol?_symbol r
  rw [h, ofSymbol?_symbol] at hsymbol
  exact (Option.some.inj hsymbol).symm

/-- No relation goes by the word for AND. -/
theorem symbol_ne_and (r : Relation) : r.symbol ≠ "AND" := by
  have hand : ofSymbol? "AND" = none := by decide
  intro h
  have hsymbol := ofSymbol?_symbol r
  rw [h, hand] at hsymbol
  cases hsymbol

end Relation

/-! ## Equality of the parts -/

namespace Datum

/-- Records with one entry each are equal when their keys and their values are. -/
theorem same_record_singleton (key other : String) (a b : Datum) :
    (record [(key, a)]).same (record [(other, b)]) = (decide (key = other) && a.same b) := by
  rw [same, sameEntries, sameEntries]
  by_cases h : key = other
  · simp [h]
  · have hne : (key == other) = false := beq_eq_false_iff_ne.2 h
    simp [List.lookup_cons, hne, h]

/-- A list in a list of one is compared as it is. -/
theorem sameItems_singleton (a b : Datum) : sameItems [a] [b] = a.same b := by
  rw [sameItems, sameItems, Bool.and_true]

end Datum

namespace Predicate

variable (settings : Settings)

/-- Marked names are alike when the names are, whatever the marker. -/
theorem reference_inj {f g : String} : reference settings f = reference settings g ↔ f = g := by
  rw [reference, reference, Datum.text, Datum.text, Datum.scalar.injEq, Scalar.text.injEq]
  exact String.append_right_inj settings.fieldMarker

theorem same_reference (f g : String) :
    (reference settings f).same (reference settings g) = decide (f = g) := by
  rw [reference, reference, Datum.same_text, decide_eq_decide]
  exact String.append_right_inj settings.fieldMarker

/-- What follows the name of the field in the data of a comparison. -/
def wireValues (op : Comparison) (values : List Datum) : List Datum :=
  if op.isSet then [.list values] else values

theorem sameItems_wireValues (op : Comparison) (as bs : List Datum) :
    Datum.sameItems (wireValues op as) (wireValues op bs) = Datum.sameItems as bs := by
  unfold wireValues
  split
  · rw [Datum.sameItems_singleton, Datum.same]
  · rfl

theorem wireValues_inj {op : Comparison} {as bs : List Datum} :
    wireValues op as = wireValues op bs ↔ as = bs := by
  unfold wireValues
  split
  · simp
  · rfl

/-! ## The one entry

Both halves of the main statement go by the three forms that a predicate can have. Two predicates of
different forms never have the same key, so the key alone decides those cases; where the forms agree,
the key also says that the relations do, and only then are the operands laid out alike. -/

/-- The key of the entry that a predicate is. -/
def wireKey : Predicate → String
  | .nullCheck check _ => (Relation.nullCheck check).symbol
  | .comparison op _ _ _ => (Relation.comparison op).symbol
  | .both _ _ => "AND"

/-- What stands under the key. -/
def wireOperand : Predicate → Datum
  | .nullCheck _ field => reference settings field
  | .comparison op field first rest =>
    .list (reference settings field :: wireValues op (first :: rest))
  | .both left right => .list [left.toDatum settings, right.toDatum settings]

theorem toDatum_eq (p : Predicate) :
    p.toDatum settings = .record [(p.wireKey, p.wireOperand settings)] := by
  cases p <;> rfl

/-- Data that are identical have one key and one operand. -/
theorem entry_inj {p q : Predicate} (h : p.toDatum settings = q.toDatum settings) :
    p.wireKey = q.wireKey ∧ p.wireOperand settings = q.wireOperand settings := by
  rw [toDatum_eq, toDatum_eq] at h
  simpa using h

/-- Predicates of one form and with one relation. -/
inductive SameForm : Predicate → Predicate → Prop where
  | nullCheck (check : NullCheck) (f g : String) : SameForm (.nullCheck check f) (.nullCheck check g)
  | comparison (op : Comparison) (f g : String) (a b : Datum) (as bs : List Datum) :
    SameForm (.comparison op f a as) (.comparison op g b bs)
  | both (left right left' right' : Predicate) : SameForm (.both left right) (.both left' right')

/-- **The key tells the form and the relation.** -/
theorem sameForm_of_wireKey {p q : Predicate} (h : p.wireKey = q.wireKey) : p.SameForm q := by
  unfold wireKey at h
  cases p with
  | nullCheck check field =>
      cases q with
      | nullCheck other field' =>
          have hrelation := Relation.symbol_injective (r := .nullCheck check) h
          cases hrelation
          exact .nullCheck check field field'
      | comparison op field' first rest =>
          have hrelation := Relation.symbol_injective (r := .nullCheck check) h
          cases hrelation
      | both left right => exact absurd h (Relation.symbol_ne_and (.nullCheck check))
  | comparison op field first rest =>
      cases q with
      | nullCheck check field' =>
          have hrelation := Relation.symbol_injective (r := .comparison op) h
          cases hrelation
      | comparison other field' first' rest' =>
          have hrelation := Relation.symbol_injective (r := .comparison op) h
          cases hrelation
          exact .comparison op field field' first first' rest rest'
      | both left right => exact absurd h (Relation.symbol_ne_and (.comparison op))
  | both left right =>
      cases q with
      | nullCheck check field => exact absurd h.symm (Relation.symbol_ne_and (.nullCheck check))
      | comparison op field first rest =>
          exact absurd h.symm (Relation.symbol_ne_and (.comparison op))
      | both left' right' => exact .both left right left' right'

theorem wireKey_of_same {p q : Predicate} (h : p.same q = true) : p.wireKey = q.wireKey := by
  unfold same at h
  split at h
  · rw [Bool.and_eq_true, decide_eq_true_eq] at h
    rw [wireKey, wireKey, h.1]
  · rw [Bool.and_eq_true, Bool.and_eq_true, decide_eq_true_eq] at h
    rw [wireKey, wireKey, h.1.1]
  · rfl
  · cases h

/-- Under different keys nothing is equal, neither the data nor the predicates. -/
theorem same_toDatum_of_ne {p q : Predicate} (h : p.wireKey ≠ q.wireKey) :
    (p.toDatum settings).same (q.toDatum settings) = p.same q := by
  have hsame : p.same q = false := by
    rw [← Bool.not_eq_true]
    exact mt wireKey_of_same h
  rw [toDatum_eq, toDatum_eq, Datum.same_record_singleton, decide_eq_false h, Bool.false_and, hsame]

/-- **The data of predicates are equal exactly when the predicates are.** -/
theorem same_toDatum (p q : Predicate) :
    (p.toDatum settings).same (q.toDatum settings) = p.same q := by
  induction p generalizing q with
  | nullCheck check field =>
      -- Either the keys differ, and then nothing is equal, or they say that the forms agree.
      by_cases hkey : (nullCheck check field).wireKey = q.wireKey
      · cases sameForm_of_wireKey hkey with
        | nullCheck _ _ other =>
            rw [toDatum_eq, toDatum_eq, Datum.same_record_singleton, wireOperand, wireOperand,
              same_reference, same]
            simp [wireKey]
      · exact same_toDatum_of_ne settings hkey
  | comparison op field first rest =>
      by_cases hkey : (comparison op field first rest).wireKey = q.wireKey
      · cases sameForm_of_wireKey hkey with
        | comparison _ _ other _ first' _ rest' =>
            rw [toDatum_eq, toDatum_eq, Datum.same_record_singleton, wireOperand, wireOperand,
              Datum.same, Datum.sameItems, same_reference, sameItems_wireValues, same]
            simp [wireKey]
      · exact same_toDatum_of_ne settings hkey
  | both left right ihleft ihright =>
      by_cases hkey : (both left right).wireKey = q.wireKey
      · cases sameForm_of_wireKey hkey with
        | both _ _ left' right' =>
            rw [toDatum_eq, toDatum_eq, Datum.same_record_singleton, wireOperand, wireOperand,
              Datum.same, Datum.sameItems, Datum.sameItems_singleton, ihleft, ihright, same]
            simp [wireKey]
      · exact same_toDatum_of_ne settings hkey

/-- Data that are identical belong to one predicate. -/
theorem toDatum_injective {p q : Predicate} (h : p.toDatum settings = q.toDatum settings) :
    p = q := by
  induction p generalizing q with
  | nullCheck check field =>
      obtain ⟨hkey, hoperand⟩ := entry_inj settings h
      cases sameForm_of_wireKey hkey with
      | nullCheck _ _ other => rw [(reference_inj settings).1 hoperand]
  | comparison op field first rest =>
      obtain ⟨hkey, hoperand⟩ := entry_inj settings h
      cases sameForm_of_wireKey hkey with
      | comparison _ _ other _ first' _ rest' =>
          obtain ⟨hfield, hvalues⟩ := List.cons.inj (Datum.list.inj hoperand)
          obtain ⟨hfirst, hrest⟩ := List.cons.inj (wireValues_inj.1 hvalues)
          rw [(reference_inj settings).1 hfield, hfirst, hrest]
  | both left right ihleft ihright =>
      obtain ⟨hkey, hoperand⟩ := entry_inj settings h
      cases sameForm_of_wireKey hkey with
      | both _ _ left' right' =>
          obtain ⟨hleft, hrest⟩ := List.cons.inj (Datum.list.inj hoperand)
          rw [ihleft hleft, ihright (List.cons.inj hrest).1]

/-- **Data tell everything about a predicate.** Under any settings, predicates are equal exactly when
their data are, and one predicate exactly when their data are identical. -/
theorem toDatum_faithful (p q : Predicate) :
    ((p.toDatum settings).same (q.toDatum settings) = true ↔ p.same q = true) ∧
      (p.toDatum settings = q.toDatum settings ↔ p = q) := by
  constructor
  · rw [same_toDatum]
  · constructor
    · intro h
      exact toDatum_injective settings h
    · intro h
      rw [h]

/-- Equal data of predicates that are not one: true, an integer and a binary number, one each. -/
example : (toDatum { fieldMarker := "" } (.comparison .oneOf "a" (.scalar (.bool true)) [])).same
    (toDatum { fieldMarker := "" } (.comparison .oneOf "a" (.scalar (.int 1)) [])) = true := by
  decide +kernel

end Predicate

end FilterQuery
