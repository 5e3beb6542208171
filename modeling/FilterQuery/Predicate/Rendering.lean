/-
Rendering predicates.

A predicate is rendered as data, as JSON text and as a query string. All three go by its shape: what
an AND comes to is put together from what its two parts come to, which are rendered by a call inside
the call for the AND. The runtime nests only so many calls, so every rendering here is given the
number that is left to it (`room`). What a call needs besides the calls for the parts is not counted;
the number is what is left for those.

Predicates that were read are chains as deep as they are long, so a rendering may well run out of
calls. Apart from that it fails only for an integer that is too long to be written. Reading never
gives one, but that is a property of reading and not something the renderings take for granted: a
caller may build a predicate with such an integer.

Main statement: with integers that can be written, a rendering is the one that `Predicate.toDatum`,
`Predicate.text` and `Predicate.toQuery` define for all predicates, exactly if there is room for it
(`renderDatum_eq`, `renderText_of_isWritable`, `renderQuery_of_isWritable`).
-/
import FilterQuery.Datum.Json.Writer
import FilterQuery.Predicate.Canonical
import FilterQuery.Predicate.Wire

set_option autoImplicit false

namespace FilterQuery

open Unwritable

/-- The calls that the runtime nests unless it is told otherwise. -/
def callLimit : Nat := 1000

namespace Predicate

/-- Whether all integers that a predicate compares with can be written. -/
def isWritable : Predicate → Bool
  | .nullCheck _ _ => true
  | .comparison _ _ first rest => Datum.areWritable (first :: rest)
  | .both left right => left.isWritable && right.isWritable

/-! ## Rendering -/

/-- A predicate as data, by at most `room` calls in one another. -/
def renderDatum (settings : Settings) : (room : Nat) → Predicate → Except Unwritable Datum
  | 0, _ => .error .tooManyCalls
  | room + 1, .both left right => do
    let first ← renderDatum settings room left
    let second ← renderDatum settings room right
    return .record [("AND", .list [first, second])]
  | _ + 1, leaf => .ok (leaf.toDatum settings)

/-- A predicate as JSON text. First the data are made, and then they are written. -/
def renderJson (charset : Json.Charset) (settings : Settings) (room : Nat) (p : Predicate) :
    Except Unwritable (List Char) := do
  let d ← p.renderDatum settings room
  Json.write charset room d

/-- A predicate as JSON text of ASCII characters, with the field marker of the standard settings. -/
def renderText (room : Nat) (p : Predicate) : Except Unwritable String := do
  let text ← p.renderJson .ascii .standard room
  return String.ofList text

/-- The parameters of a predicate, by at most `room` calls in one another. -/
def renderParameters (settings : Settings) :
    (room : Nat) → Predicate → Except Unwritable (List String)
  | 0, _ => .error .tooManyCalls
  | room + 1, .both left right => do
    let front ← renderParameters settings room left
    let back ← renderParameters settings room right
    return front ++ back
  | _ + 1, leaf =>
    if leaf.isWritable then .ok (leaf.parameters settings) else .error .tooManyDigits

/-- A predicate as a query string. -/
def renderQuery (settings : Settings) (room : Nat) (p : Predicate) : Except Unwritable String := do
  let parameters ← p.renderParameters settings room
  return String.intercalate "&" parameters

/-- A predicate as a query string when there is room for all calls: only the values in it can be a
hindrance then (`renderQuery_of_depth_lt`). -/
def writeQuery (settings : Settings) (p : Predicate) : Except Unwritable String :=
  if p.isWritable then .ok (p.toQuery settings) else .error .tooManyDigits

/-! ## What is rendered -/

/-- A predicate as data holds its values and texts besides, so all renderings depend on the values
alone. -/
theorem isWritable_toDatum (settings : Settings) (p : Predicate) :
    (p.toDatum settings).isWritable = p.isWritable := by
  induction p with
  | nullCheck check field => rfl
  | comparison op field first rest =>
      cases hset : op.isSet with
      | true => simp [toDatum, isWritable, Datum.isWritable, Datum.areWritable,
          Datum.entriesAreWritable, reference, Datum.text, Scalar.isWritable, hset]
      | false => simp [toDatum, isWritable, Datum.isWritable, Datum.areWritable,
          Datum.entriesAreWritable, reference, Datum.text, Scalar.isWritable, hset]
  | both left right ihleft ihright =>
      simp [toDatum, isWritable, Datum.isWritable, Datum.areWritable, Datum.entriesAreWritable,
        ihleft, ihright]

theorem depth_both (left right : Predicate) :
    (both left right).depth = max (left.depth + 1) (right.depth + 1) := by
  rw [depth, Nat.add_max_add_right, Nat.add_comm]

/-- **A predicate is rendered as data** if there is a call for each AND in one another, and one for
the condition in the last of them. -/
theorem renderDatum_eq (settings : Settings) (room : Nat) (p : Predicate) :
    p.renderDatum settings room
      = unlessFits .tooManyCalls (p.depth + 1) room (p.toDatum settings) := by
  induction p generalizing room with
  | both left right ihleft ihright =>
      cases room with
      | zero => simp [renderDatum, unlessFits]
      | succ room =>
          rw [renderDatum, ihleft, ihright, unlessFits_bind, depth_both, unlessFits_succ, toDatum]
  | _ => cases room <;> simp [renderDatum, unlessFits, depth]

theorem renderJson_of_isWritable {p : Predicate} (hp : p.isWritable = true)
    (charset : Json.Charset) (settings : Settings) (room : Nat) :
    p.renderJson charset settings room
      = if p.depth + 1 ≤ room then
          unlessFits .tooDeep (p.toDatum settings).nesting room
            (Json.ofDatum charset (p.toDatum settings))
        else .error .tooManyCalls := by
  rw [renderJson, renderDatum_eq]
  by_cases hroom : p.depth + 1 ≤ room
  · rw [← isWritable_toDatum settings] at hp
    simp only [unlessFits, if_pos hroom]
    exact Json.write_of_isWritable charset room _ hp
  · simp only [unlessFits, if_neg hroom]
    rfl

/-- **A predicate is rendered as JSON text** if it is rendered as data, and if there is a call for
each list and each record of those in one another. -/
theorem renderText_of_isWritable {p : Predicate} (hp : p.isWritable = true) (room : Nat) :
    p.renderText room
      = if p.depth + 1 ≤ room then
          unlessFits .tooDeep (p.toDatum .standard).nesting room p.text
        else .error .tooManyCalls := by
  rw [renderText, renderJson_of_isWritable hp]
  by_cases hroom : p.depth + 1 ≤ room
  · rw [if_pos hroom, if_pos hroom, unlessFits_map]
    rfl
  · rw [if_neg hroom, if_neg hroom]
    rfl

theorem renderParameters_of_isWritable {p : Predicate} (hp : p.isWritable = true)
    (settings : Settings) (room : Nat) :
    p.renderParameters settings room
      = unlessFits .tooManyCalls (p.depth + 1) room (p.parameters settings) := by
  induction p generalizing room with
  | both left right ihleft ihright =>
      rw [isWritable, Bool.and_eq_true] at hp
      cases room with
      | zero => simp [renderParameters, unlessFits]
      | succ room =>
          rw [renderParameters, ihleft hp.1, ihright hp.2, unlessFits_bind, depth_both,
            unlessFits_succ, parameters]
  | _ => cases room <;> simp [renderParameters, unlessFits, depth, hp]

/-- **A predicate is rendered as a query string** under the same condition as it is as data. -/
theorem renderQuery_of_isWritable {p : Predicate} (hp : p.isWritable = true)
    (settings : Settings) (room : Nat) :
    p.renderQuery settings room
      = unlessFits .tooManyCalls (p.depth + 1) room (p.toQuery settings) := by
  rw [renderQuery, renderParameters_of_isWritable hp, unlessFits_map]
  rfl

theorem renderParameters_of_depth_lt {room : Nat} {p : Predicate} (hroom : p.depth < room)
    (settings : Settings) :
    p.renderParameters settings room
      = if p.isWritable then .ok (p.parameters settings) else .error .tooManyDigits := by
  induction p generalizing room with
  | both left right ihleft ihright =>
      rw [depth_both] at hroom
      obtain ⟨room, rfl⟩ := Nat.exists_eq_succ_of_ne_zero (Nat.ne_zero_of_lt hroom)
      rw [renderParameters, ihleft (by omega), ihright (by omega), isWritable, parameters]
      cases left.isWritable <;> cases right.isWritable <;> rfl
  | _ =>
      obtain ⟨room, rfl⟩ := Nat.exists_eq_succ_of_ne_zero (Nat.ne_zero_of_lt hroom)
      rw [renderParameters]
      nofun

theorem renderQuery_of_depth_lt {room : Nat} {p : Predicate} (hroom : p.depth < room)
    (settings : Settings) : p.renderQuery settings room = p.writeQuery settings := by
  rw [renderQuery, renderParameters_of_depth_lt hroom, writeQuery]
  cases p.isWritable <;> rfl

end Predicate

end FilterQuery
