/-
Regular expressions.

An expression describes stretches of a text, character by character. Where a text can be read in
several ways, the order in which an expression lists them decides, and a repetition says whether more
or fewer come first. Parts of an expression may be marked, and what is asked for are the places of
the marked parts.

The search tries a way and returns to the next one if what follows cannot be found. It is written with
what follows as an argument, so that no way is lost. The depth of the recursion grows with the
characters read and with the size of the expression only, which bounds it.
-/
import FilterQuery.Text.Name

set_option autoImplicit false

namespace FilterQuery.Text

/-- A stretch of a text: the place where it begins and the place after its end. -/
structure Stretch where
  start : Nat
  stop : Nat
deriving DecidableEq, Repr

/-- A regular expression. -/
inductive Regex where
  | empty
  | char (fits : Char → Bool)
  | both (first second : Regex)
  | either (first second : Regex)
  /-- From `least` to `most` times; the most come first if it is `greedy`. -/
  | times (least : Nat) (most : Option Nat) (greedy : Bool) (part : Regex)
  | marked (part : Regex)
  /-- Not right after a character of some kind. -/
  | notAfter (fits : Char → Bool)
  /-- Between a character of a word and one that is none, or not there. -/
  | wordEdge (present : Bool)

namespace Regex

/-! ## Building -/

/-- One after the other. -/
def inOrder : List Regex → Regex
  | [] => .empty
  | [r] => r
  | r :: rest => .both r (inOrder rest)

/-- One of several, the first that can be found. -/
def oneOf : List Regex → Regex
  | [] => .char fun _ => false
  | [r] => r
  | r :: rest => .either r (oneOf rest)

/-- The characters of a text. -/
def text (s : String) : Regex := inOrder (s.toList.map fun c => .char (· = c))

/-- One of some characters. -/
def among (s : String) : Regex := .char s.toList.contains

def many (r : Regex) : Regex := .times 0 none true r
def several (r : Regex) : Regex := .times 1 none true r
def perhaps (r : Regex) : Regex := .times 0 (some 1) true r
def exactly (n : Nat) (r : Regex) : Regex := .times n (some n) true r
def fromTo (least most : Nat) (r : Regex) : Regex := .times least (some most) true r

/-! ## Searching -/

/-- Where a search has come to. -/
structure Cursor where
  place : Nat := 0
  before : Option Char := none
  rest : List Char
  marks : List Stretch := []

/-- Whether a word begins or ends at a place. -/
def Cursor.atEdge (c : Cursor) : Bool :=
  c.before.any isWordCharacter != c.rest.head?.any isWordCharacter

/-- Finds an expression at a place and then what follows it. -/
def find : (bound : Nat) → Regex → Cursor → (Cursor → Option Cursor) → Option Cursor
  | 0, _, _, _ => none
  | bound + 1, r, c, next =>
    match r with
    | .empty => next c
    | .char fits =>
      match c.rest with
      | [] => none
      | d :: rest =>
        if fits d then next { c with place := c.place + 1, before := some d, rest } else none
    | .both first second => find bound first c fun c => find bound second c next
    | .either first second =>
      match find bound first c next with
      | some found => some found
      | none => find bound second c next
    | .times least most greedy part =>
      let again (_ : Unit) : Option Cursor :=
        if most = some 0 then none
        else find bound part c fun d =>
          if d.place = c.place then none
          else find bound (.times (least - 1) (most.map (· - 1)) greedy part) d next
      let stop (_ : Unit) : Option Cursor := if least = 0 then next c else none
      let (first, second) := if greedy then (again, stop) else (stop, again)
      match first () with
      | some found => some found
      | none => second ()
    | .marked part =>
      find bound part c fun d => next { d with marks := d.marks ++ [⟨c.place, d.place⟩] }
    | .notAfter fits => if c.before.any fits then none else next c
    | .wordEdge present => if c.atEdge = present then next c else none

/-- The marked parts of all stretches of a text that an expression describes, from the front to the
back and without overlaps. The first `skip` characters belong to a stretch found before. -/
def marksFrom (r : Regex) (bound : Nat) (place skip : Nat) (before : Option Char) :
    List Char → List Stretch
  | [] => []
  | c :: rest =>
    if skip ≠ 0 then marksFrom r bound (place + 1) (skip - 1) (some c) rest
    else
      match find bound r { place, before, rest := c :: rest } some with
      | some found =>
        found.marks ++ marksFrom r bound (place + 1) (found.place - place - 1) (some c) rest
      | none => marksFrom r bound (place + 1) 0 (some c) rest

/-- The marked parts of all stretches of a text that an expression describes. -/
def marks (r : Regex) (s : List Char) : List Stretch :=
  marksFrom r (s.length + 200) 0 0 none s

end Regex

end FilterQuery.Text
