/-
Names that may have been meant.

A name that is not known is compared with those that are. The likeness of two texts is measured by
what they have in common: the longest row of characters found in both, then the same to the left and
to the right of it. Names count as alike when the common characters, taken twice, are at least six
tenths of all characters.
-/

set_option autoImplicit false

namespace FilterQuery.CommandLine

/-! ## What two texts have in common -/

/-- The length of the common beginning of two texts. -/
def commonLength : List Char → List Char → Nat
  | a :: as, b :: bs => if a = b then 1 + commonLength as bs else 0
  | _, _ => 0

/-- A row of characters found in two texts: where it begins in each, and its length. -/
structure Match where
  left : Nat
  right : Nat
  length : Nat

/-- The longest row found in both texts, the leftmost if there are several. -/
def longestMatch (a b : List Char) : Match :=
  let starts := (List.range a.length).flatMap fun i => (List.range b.length).map fun j => (i, j)
  starts.foldl (fun best (i, j) =>
    let length := commonLength (a.drop i) (b.drop j)
    if best.length < length then ⟨i, j, length⟩ else best) ⟨0, 0, 0⟩

/-- The number of characters in common. Each step takes a row out of the first text, so its length
bounds the number of steps. -/
def commonCount : (steps : Nat) → List Char → List Char → Nat
  | 0, _, _ => 0
  | steps + 1, a, b =>
    let m := longestMatch a b
    if m.length = 0 then 0
    else m.length + commonCount steps (a.take m.left) (b.take m.right) +
      commonCount steps (a.drop (m.left + m.length)) (b.drop (m.right + m.length))

/-- The characters in common and the characters in all, of a known name and the one given. -/
def likeness (known given : String) : Nat × Nat :=
  (2 * commonCount known.length known.toList given.toList, known.length + given.length)

/-! ## Suggestions -/

/-- Whether the first name is the better suggestion. -/
def isBetter (given a b : String) : Bool :=
  let (commonA, allA) := likeness a given
  let (commonB, allB) := likeness b given
  commonB * allA < commonA * allB || (commonA * allB = commonB * allA && b < a)

/-- The known names that are like the one given, three at most. -/
def similar (known : List String) (given : String) : List String :=
  let alike := known.filter fun name =>
    let (common, all) := likeness name given
    3 * all ≤ 5 * common
  (alike.mergeSort (fun a b => isBetter given a b || a = b)).take 3

end FilterQuery.CommandLine
