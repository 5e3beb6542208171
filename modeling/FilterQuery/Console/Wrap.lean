/-
Breaking a text into lines of a given width.

A text is broken at its line ends, and where a line is too long, before a word: words are put on a
line as long as they fit, blanks after the last word not counting. A word that is longer than a whole
line starts on a line of its own, and is either folded, that is cut every so many cells, or shortened
with an ellipsis. Blanks that reach beyond the width are dropped from the end of a line, others stay.
-/
import FilterQuery.Console
import FilterQuery.Console.Cells
import FilterQuery.Text.Pieces

set_option autoImplicit false

namespace FilterQuery.Console

open FilterQuery.Text

/-! ## What is shown -/

/-- The text without the control characters that a terminal would act on. -/
def withoutControls (s : List Char) : List Char :=
  s.filter fun c => !(['\x07', '\x08', '\x0b', '\x0c', '\x0d'].contains c)

/-- The text with each tab replaced by blanks: one, and then as many as it takes to reach a multiple
of eight cells. -/
def expandTabs (s : List Char) : List Char :=
  go (pieces '\t' s)
where
  go : List (List Char) → List Char
    | [] => []
    | [last] => last
    | piece :: rest =>
      let spaced := piece ++ [' ']
      spaced ++ blanks ((8 - width spaced % 8) % 8) ++ go rest

/-! ## Words -/

def startsBlank (s : List Char) : Bool := s.head?.any isBlank

/-- Puts a character in front of rows, each of which is a row of other characters and then blanks. -/
def joinRow (c : Char) : List (List Char) → List (List Char)
  | [] => [[c]]
  | row :: rows =>
    if isBlank c && !startsBlank row then [c] :: row :: rows else (c :: row) :: rows

/-- The words of a line, each with the blanks after it, and the first one with those before it as
well. A line of blanks has none. -/
def words (line : List Char) : List (List Char) :=
  match line.foldr joinRow [] with
  | [] => []
  | first :: rest =>
    if startsBlank first then
      match rest with
      | [] => []
      | second :: rest => (first ++ second) :: rest
    else first :: rest

/-! ## Lines -/

/-- Clusters put together to pieces of at most `limit` cells each; `piece` is the beginning of the
first one and takes `used` cells. A last piece without cells is dropped. -/
def chop (limit used : Nat) (piece : List Char) : List Cluster → List (List Char)
  | [] => if used = 0 then [] else [piece]
  | k :: rest =>
    if limit < used + k.cells then piece :: chop limit k.cells k.chars rest
    else chop limit (used + k.cells) (piece ++ k.chars) rest

/-- Lines under way: the finished lines and the current one, last first, and the cells used up on
the current one. -/
structure Page where
  lines : List (List Char) := []
  used : Nat := 0

/-- What is done with words that are longer than a line. -/
inductive LongWords where
  | fold | shorten
deriving DecidableEq, Repr

/-- Puts a word on the page, on the current line if it fits there. -/
def Page.put (limit : Nat) (longWords : LongWords) (page : Page) (word : List Char) : Page :=
  let size := width (trimEnd word)
  if page.used + size ≤ limit then
    { lines := (page.lines.headD [] ++ word) :: page.lines.tail, used := page.used + width word }
  else if limit < size && longWords = .fold then
    let chunks := (chop limit 0 [] (clusters word)).reverse
    { lines := chunks ++ page.lines, used := width (chunks.headD []) }
  else { lines := word :: page.lines, used := width word }

/-- A line without the blanks at its end that reach beyond its first `limit` characters. -/
def dropExcess (limit : Nat) (line : List Char) : List Char :=
  let blankCount := line.length - (trimEnd line).length
  line.take (line.length - min blankCount (line.length - limit))

/-- A line cut to at most `limit` cells. -/
def LongWords.cut (longWords : LongWords) (limit : Nat) (line : List Char) :
    Except CutFault (List Char) :=
  if width line ≤ limit then .ok line
  else match longWords with
    | .fold => Console.cut limit line
    | .shorten => do return (← Console.cut (limit - 1) line) ++ ['…']

/-- The rows that a line without tabs is broken into. No character is lost. -/
def rows (limit : Nat) (longWords : LongWords) (line : List Char) : List (List Char) :=
  match words line with
  | [] => [line]
  | found => (found.foldl (Page.put limit longWords) {}).lines.reverse

/-- A row made to fit. -/
def fitRow (limit : Nat) (longWords : LongWords) (row : List Char) : Except CutFault (List Char) :=
  longWords.cut limit (dropExcess limit row)

/-- The lines of a text that has no line ends. -/
def wrapLine (limit : Nat) (longWords : LongWords) (line : List Char) :
    Except CutFault (List (List Char)) :=
  (rows limit longWords (expandTabs line)).mapM (fitRow limit longWords)

/-- The lines of a text, at most `limit` cells wide. -/
def wrap (limit : Nat) (longWords : LongWords) (s : List Char) :
    Except CutFault (List (List Char)) := do
  return (← (pieces '\n' (withoutControls s)).mapM (wrapLine limit longWords)).flatten

end FilterQuery.Console
