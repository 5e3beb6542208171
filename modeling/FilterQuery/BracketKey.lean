/-
Bracketed keys: `filter[age][gt]` for the segments `filter`, `age`, `gt`.

Reading is generous: either bracket ends a segment, whatever it matches, and empty segments do not
count. Writing puts every segment after the first into brackets, so written keys are read back as
long as no segment is empty or has brackets.
-/
import FilterQuery.Text.Pieces

set_option autoImplicit false

namespace FilterQuery.BracketKey

open FilterQuery.Text

def isBracket (c : Char) : Bool :=
  c == '[' || c == ']'

/-- The segments of a key: its longest rows of characters other than brackets. -/
def segments (key : String) : List String :=
  ((piecesAt isBracket key.toList).filter (· ≠ [])).map String.ofList

/-- Segments in brackets, one after the other. -/
def groups : List String → String
  | [] => ""
  | segment :: rest => "[" ++ segment ++ "]" ++ groups rest

/-- The key with the given first segment and further segments. -/
def write (first : String) (others : List String) : String :=
  first ++ groups others

end FilterQuery.BracketKey
