/-
Binary floating-point numbers of 64 bits.

A finite number is a sign and a magnitude, and a magnitude is stored as its place in the increasing
list of all finite magnitudes: 0 is zero, 1 the smallest positive one, and so on. Counting in units
of that smallest one makes every magnitude a natural number (`units`), so comparison and rounding
are exact arithmetic on `Nat` and nothing here is approximate.

The list is regular: it consists of blocks of `2 ^ 52` places, of which the first two advance by one
unit and each later one by twice the step of the block before it. So with `B = 2 ^ 52` a place `k ≥ B`
is worth `(B + k % B) * 2 ^ (k / B - 1)` units. After 2047 blocks the list ends, and what would round
to a later place is infinite.

Powers are written with `Nat.pow`, which is what the arithmetic of the kernel computes with.
-/

set_option autoImplicit false

namespace FilterQuery

/-- The number of places in a block. -/
def Binary64.blockSize : Nat := Nat.pow 2 52

/-- The number of finite magnitudes. -/
def Binary64.finiteCount : Nat := 2047 * blockSize

/-- A 64-bit floating-point number. There are two zeros. A value that is not a number carries a
payload, which tells it from the others of its kind. -/
inductive Binary64 where
  | finite (negative : Bool) (place : Fin Binary64.finiteCount)
  | infinite (negative : Bool)
  | nan (payload : Nat)
deriving DecidableEq

namespace Binary64

/-! ## Magnitudes -/

/-- How many units make one: the smallest positive magnitude is `2 ^ (-1074)`. -/
def unitsPerOne : Nat := Nat.pow 2 1074

/-- The magnitude at a place, in units. -/
def unitsAt (place : Nat) : Nat :=
  if place < blockSize then place
  else (blockSize + place % blockSize) * Nat.pow 2 (place / blockSize - 1)

/-- The last place whose magnitude is at most `units`. -/
def placeBelow (units : Nat) : Nat :=
  let doublings := units.log2 - 52
  doublings * blockSize + units / Nat.pow 2 doublings

/-- The place nearest to `num / den`; of two equally near ones, the even one. -/
def nearestPlace (num den : Nat) : Nat :=
  let exact := num * unitsPerOne
  let below := placeBelow (exact / den)
  let middle := (unitsAt below + unitsAt (below + 1)) * den
  if 2 * exact < middle then below
  else if middle < 2 * exact then below + 1
  else below + below % 2

/-! ## Numbers -/

/-- The number nearest to `num / den`, infinite beyond the last finite place. -/
def ofRatio (negative : Bool) (num den : Nat) : Binary64 :=
  let place := nearestPlace num den
  if h : place < finiteCount then .finite negative ⟨place, h⟩ else .infinite negative

def zero : Binary64 := .finite false ⟨0, by decide⟩

def isFinite : Binary64 → Bool
  | .finite .. => true
  | _ => false

/-- What a number amounts to, the two zeros alike. What is not a number amounts to nothing but
itself. -/
inductive Quantity where
  /-- So many units. -/
  | units (count : Int)
  | infinite (negative : Bool)
  | undefined (payload : Nat)
deriving DecidableEq, Repr

/-- The quantity of a whole number. -/
def Quantity.ofInt (n : Int) : Quantity := .units (n * unitsPerOne)

/-- The quantity of a floating-point number. -/
def quantity : Binary64 → Quantity
  | .finite negative place => .units (if negative then -(unitsAt place : Int) else unitsAt place)
  | .infinite negative => .infinite negative
  | .nan payload => .undefined payload

end Binary64

end FilterQuery
