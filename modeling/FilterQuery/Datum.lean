/-
Nested data: scalars, lists and records.

Predicates are handed on as data of this kind, and problems carry the offending value as one. The
entries of a record keep their order, which shows in its spelling; for equality the order does not
matter, and lists are equal item by item.
-/
import FilterQuery.Scalar

set_option autoImplicit false

namespace FilterQuery

/-- A nested datum. -/
inductive Datum where
  | scalar (value : Scalar)
  | list (items : List Datum)
  | record (entries : List (String × Datum))

namespace Datum

instance : Inhabited Datum := ⟨.scalar .null⟩

/-- A text as a datum. -/
def text (s : String) : Datum := .scalar (.text s)

/-- A list of texts as a datum. -/
def texts (ss : List String) : Datum := .list (ss.map .text)

def null : Datum := .scalar .null

/-! ## Identity

Two data are identical when they are built alike; equality below is coarser. -/

mutual

/-- Decides identity. -/
def decEq : (a b : Datum) → Decidable (a = b)
  | .scalar a, .scalar b => decidable_of_iff (a = b) (by simp)
  | .list as, .list bs => @decidable_of_iff _ (as = bs) (by simp) (decEqItems as bs)
  | .record as, .record bs => @decidable_of_iff _ (as = bs) (by simp) (decEqEntries as bs)
  | .scalar _, .list _ | .scalar _, .record _ | .list _, .scalar _ | .list _, .record _
  | .record _, .scalar _ | .record _, .list _ => isFalse (by simp)

def decEqItems : (as bs : List Datum) → Decidable (as = bs)
  | [], [] => isTrue rfl
  | a :: as, b :: bs =>
    @decidable_of_iff _ (a = b ∧ as = bs) (by simp)
      (@instDecidableAnd _ _ (decEq a b) (decEqItems as bs))
  | [], _ :: _ | _ :: _, [] => isFalse (by simp)

def decEqEntries : (as bs : List (String × Datum)) → Decidable (as = bs)
  | [], [] => isTrue rfl
  | (k, a) :: as, (l, b) :: bs =>
    @decidable_of_iff _ (k = l ∧ a = b ∧ as = bs) (by simp [and_assoc])
      (@instDecidableAnd _ _ inferInstance
        (@instDecidableAnd _ _ (decEq a b) (decEqEntries as bs)))
  | [], _ :: _ | _ :: _, [] => isFalse (by simp)

end

instance : DecidableEq Datum := decEq

/-! ## Equality -/

mutual

/-- Equality of data: records are equal when they have equally many entries and each entry of one
is found in the other. -/
def same : Datum → Datum → Bool
  | .scalar a, .scalar b => a.same b
  | .list as, .list bs => sameItems as bs
  | .record as, .record bs => as.length = bs.length && sameEntries as bs
  | _, _ => false

/-- Equality item by item. -/
def sameItems : List Datum → List Datum → Bool
  | [], [] => true
  | a :: as, b :: bs => a.same b && sameItems as bs
  | _, _ => false

/-- Whether each entry is found among others, whatever the order. -/
def sameEntries : List (String × Datum) → List (String × Datum) → Bool
  | [], _ => true
  | (key, a) :: as, bs =>
    (match bs.lookup key with
      | some b => a.same b
      | none => false) && sameEntries as bs

end

/-- Texts are equal when they are the same text. -/
theorem same_text (s t : String) : (text s).same (text t) = decide (s = t) := by
  simp [text, same, Scalar.same, Scalar.sense]

/-! ## Spelling -/

/-- Items between two brackets, separated by a comma and a blank. -/
def enclose (opening : Char) (items : List (List Char)) (closing : Char) : List Char :=
  opening :: [',', ' '].intercalate items ++ [closing]

mutual

/-- A datum as it is displayed in reports. -/
def display : Datum → List Char
  | .scalar value => value.display
  | .list items => enclose '[' (displayItems items) ']'
  | .record entries => enclose '\x7b' (displayEntries entries) '\x7d'

def displayItems : List Datum → List (List Char)
  | [] => []
  | item :: rest => item.display :: displayItems rest

def displayEntries : List (String × Datum) → List (List Char)
  | [] => []
  | (key, value) :: rest =>
    (Text.quoted key.toList ++ ':' :: ' ' :: value.display) :: displayEntries rest

end

/-- A datum as a person reads it: a scalar plainly, and anything else as it is displayed. -/
def plain : Datum → List Char
  | .scalar value => value.plain
  | other => other.display

end Datum

end FilterQuery
