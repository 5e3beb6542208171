/-
Writing JSON within limits.

Every datum has a spelling, but not every one is written. Integers are exchanged with a limited
number of digits, in both directions: a longer numeral is not read as a number, and a longer integer
is not written. And the writer goes into lists and records by calls that it nests as they are nested,
of which the runtime allows only so many. The first of these failures that is met on the way from
left to right is the one that is reported.

Main statement: data without long integers are written, and written as they are spelled, exactly if
they are not nested too deeply (`Json.write_of_isWritable`).
-/
import FilterQuery.Datum.Json
import FilterQuery.Number.Numeral

set_option autoImplicit false

namespace FilterQuery

/-- Why something cannot be written. -/
inductive Unwritable where
  /-- An integer in it has more digits than are written. -/
  | tooManyDigits
  /-- Its lists and records are nested more deeply than the writer may go. -/
  | tooDeep
  /-- Its parts are nested more deeply than calls may be. -/
  | tooManyCalls
deriving DecidableEq, Repr

/-- The wording of a failure to write. -/
def Unwritable.message : Unwritable → String
  | .tooManyDigits =>
    "Exceeds the limit (" ++ toString Numeral.integerDigitLimit ++
      " digits) for integer string conversion; use sys.set_int_max_str_digits() to increase the limit"
  | .tooDeep => "maximum recursion depth exceeded while encoding a JSON object"
  | .tooManyCalls => "maximum recursion depth exceeded"

/-- What comes of a work that needs so many calls in one another, when so many are allowed. -/
def Unwritable.unlessFits {α : Type} (failure : Unwritable) (need room : Nat) (result : α) :
    Except Unwritable α :=
  if need ≤ room then .ok result else .error failure

namespace Unwritable

variable {α β γ : Type} (failure : Unwritable)

/-- Of two works the one that needs more calls decides. -/
theorem unlessFits_bind (m n room : Nat) (a : α) (b : β) (f : α → β → γ) :
    (do
      let x ← failure.unlessFits m room a
      let y ← failure.unlessFits n room b
      return f x y) = failure.unlessFits (max m n) room (f a b) := by
  have hmax : max m n ≤ room ↔ m ≤ room ∧ n ≤ room := Nat.max_le
  by_cases hm : m ≤ room
  · by_cases hn : n ≤ room
    · have hboth : max m n ≤ room := hmax.2 ⟨hm, hn⟩
      simp only [unlessFits, if_pos hm, if_pos hn, if_pos hboth, bind, Except.bind, pure,
        Except.pure]
    · have hover : ¬ max m n ≤ room := fun h => hn (hmax.1 h).2
      simp only [unlessFits, if_pos hm, if_neg hn, if_neg hover, bind, Except.bind]
  · have hover : ¬ max m n ≤ room := fun h => hm (hmax.1 h).1
    simp only [unlessFits, if_neg hm, if_neg hover, bind, Except.bind]

theorem unlessFits_map (n room : Nat) (a : α) (f : α → β) :
    (do
      let x ← failure.unlessFits n room a
      return f x) = failure.unlessFits n room (f a) := by
  by_cases hn : n ≤ room
  · simp [unlessFits, hn, bind, Except.bind, pure, Except.pure]
  · simp [unlessFits, hn, bind, Except.bind]

/-- A work that is done inside one more call needs one more. -/
theorem unlessFits_succ (n room : Nat) (a : α) :
    failure.unlessFits (n + 1) (room + 1) a = failure.unlessFits n room a := by
  simp [unlessFits]

end Unwritable

/-- Whether a scalar can be written: an integer must keep to the digit limit. -/
def Scalar.isWritable : Scalar → Bool
  | .int n => (Nat.toDigits 10 n.natAbs).length ≤ Numeral.integerDigitLimit
  | _ => true

namespace Datum

mutual

/-- Whether all integers in a datum can be written. -/
def isWritable : Datum → Bool
  | .scalar value => value.isWritable
  | .list items => areWritable items
  | .record entries => entriesAreWritable entries

def areWritable : List Datum → Bool
  | [] => true
  | item :: rest => item.isWritable && areWritable rest

def entriesAreWritable : List (String × Datum) → Bool
  | [] => true
  | (_, value) :: rest => value.isWritable && entriesAreWritable rest

end

mutual

/-- How deeply lists and records are nested. -/
def nesting : Datum → Nat
  | .scalar _ => 0
  | .list items => nestingOfItems items + 1
  | .record entries => nestingOfEntries entries + 1

def nestingOfItems : List Datum → Nat
  | [] => 0
  | item :: rest => max item.nesting (nestingOfItems rest)

def nestingOfEntries : List (String × Datum) → Nat
  | [] => 0
  | (_, value) :: rest => max value.nesting (nestingOfEntries rest)

end

end Datum

namespace Json

open Unwritable

mutual

/-- Writes a datum with at most `room` calls in one another. -/
def write (charset : Charset) : (room : Nat) → Datum → Except Unwritable (List Char)
  | _, .scalar value =>
    if value.isWritable then .ok (ofScalar charset value) else .error .tooManyDigits
  | 0, .list _ => .error .tooDeep
  | 0, .record _ => .error .tooDeep
  | room + 1, .list items => do
    let texts ← writeItems charset room items
    return Datum.enclose '[' texts ']'
  | room + 1, .record entries => do
    let texts ← writeEntries charset room entries
    return Datum.enclose '\x7b' texts '\x7d'

def writeItems (charset : Charset) (room : Nat) :
    List Datum → Except Unwritable (List (List Char))
  | [] => .ok []
  | item :: rest => do
    let text ← write charset room item
    let texts ← writeItems charset room rest
    return text :: texts

def writeEntries (charset : Charset) (room : Nat) :
    List (String × Datum) → Except Unwritable (List (List Char))
  | [] => .ok []
  | (key, value) :: rest => do
    let text ← write charset room value
    let texts ← writeEntries charset room rest
    return (ofText charset key ++ ':' :: ' ' :: text) :: texts

end

mutual

/-- **Writing without long integers** gives the spelling if there is room for the nesting. -/
theorem write_of_isWritable (charset : Charset) (room : Nat) :
    (d : Datum) → d.isWritable = true →
      write charset room d = unlessFits .tooDeep d.nesting room (ofDatum charset d)
  | .scalar value, h => by
      rw [Datum.isWritable] at h
      simp [write, ofDatum, Datum.nesting, unlessFits, h]
  | .list items, h => by
      cases room with
      | zero => simp [write, Datum.nesting, unlessFits]
      | succ room =>
          rw [write, writeItems_of_areWritable charset room items h, unlessFits_map, ofDatum,
            Datum.nesting, unlessFits_succ]
  | .record entries, h => by
      cases room with
      | zero => simp [write, Datum.nesting, unlessFits]
      | succ room =>
          rw [write, writeEntries_of_areWritable charset room entries h, unlessFits_map, ofDatum,
            Datum.nesting, unlessFits_succ]

theorem writeItems_of_areWritable (charset : Charset) (room : Nat) :
    (items : List Datum) → Datum.areWritable items = true →
      writeItems charset room items
        = unlessFits .tooDeep (Datum.nestingOfItems items) room (ofItems charset items)
  | [], _ => by simp [writeItems, ofItems, Datum.nestingOfItems, unlessFits]
  | item :: rest, h => by
      rw [Datum.areWritable, Bool.and_eq_true] at h
      rw [writeItems, write_of_isWritable charset room item h.1,
        writeItems_of_areWritable charset room rest h.2, unlessFits_bind, ofItems,
        Datum.nestingOfItems]

theorem writeEntries_of_areWritable (charset : Charset) (room : Nat) :
    (entries : List (String × Datum)) → Datum.entriesAreWritable entries = true →
      writeEntries charset room entries
        = unlessFits .tooDeep (Datum.nestingOfEntries entries) room (ofEntries charset entries)
  | [], _ => by simp [writeEntries, ofEntries, Datum.nestingOfEntries, unlessFits]
  | (key, value) :: rest, h => by
      rw [Datum.entriesAreWritable, Bool.and_eq_true] at h
      rw [writeEntries, write_of_isWritable charset room value h.1,
        writeEntries_of_areWritable charset room rest h.2, unlessFits_bind, ofEntries,
        Datum.nestingOfEntries]

end

end Json

end FilterQuery
