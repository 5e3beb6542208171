/-
Tables drawn with lines.

A table has a title, a heading for each column and rows of texts. Each column is as wide as its
widest text and a blank on either side. If that is wider than the terminal, the widest columns are
narrowed first: down to the next widest, then together with that one, and so on until the table
fits. Texts are wrapped to their column, and a word that is too long for it ends in an ellipsis.
-/
import FilterQuery.Console.Wrap

set_option autoImplicit false

namespace FilterQuery.Console

/-! ## Widths of columns -/

/-- The characters at which a text is broken when it is measured. -/
def isLineEnd (c : Char) : Bool :=
  ['\n', '\x1c', '\x1d', '\x1e', '\u0085', '\u2028', '\u2029'].contains c

/-- The cells of the longest line of a text. -/
def measure (s : List Char) : Nat :=
  ((Text.piecesAt isLineEnd (withoutControls s)).map width).foldl max 0

/-- A quotient of `num` and a positive `den`, rounded to the nearest whole number, a half to the
even one. -/
def roundedQuotient (num den : Nat) : Nat :=
  let low := num / den
  let twice := 2 * (num % den)
  if twice < den then low else if den < twice then low + 1 else low + low % 2

/-- The cells of all columns together. -/
def totalWidth (widths : List Nat) : Nat :=
  widths.foldl (· + ·) 0

/-- Takes `excess` cells away from `count` columns of width `widest`, in equal shares but not more
than `most` from each. -/
def takeShares (widest most : Nat) : (excess count : Nat) → List Nat → List Nat
  | _, _, [] => []
  | excess, count, w :: rest =>
    if w = widest && 0 < count then
      let share := min most (roundedQuotient excess count)
      (w - share) :: takeShares widest most (excess - share) (count - 1) rest
    else w :: takeShares widest most excess count rest

/-- Narrows the widest columns, at most down to the next widest. -/
def narrowWidest (limit : Nat) (widths : List Nat) : List Nat :=
  let excess := totalWidth widths - limit
  let widest := widths.foldl max 0
  let next := (widths.filter (· ≠ widest)).foldl max 0
  takeShares widest (min excess (widest - next)) excess (widths.count widest) widths

/-- Narrows columns until they fit, in at most `steps` steps. -/
def narrow (limit : Nat) : (steps : Nat) → List Nat → List Nat
  | 0, widths => widths
  | steps + 1, widths =>
    if totalWidth widths ≤ limit then widths else narrow limit steps (narrowWidest limit widths)

namespace Table

/-- The texts of each column, the heading first. -/
def columns (t : Table) : List (List String) :=
  t.headings.zipIdx.map fun (heading, i) => heading :: t.rows.map fun row => row.getD i ""

/-- The widths of the columns on a terminal of `limit` cells, the blanks on either side included.
Each step narrows the total by a cell at least, which bounds the number of steps. -/
def widths (limit : Nat) (t : Table) : List Nat :=
  let room := limit - (t.headings.length + 1)
  let natural := t.columns.map fun texts =>
    min room ((texts.map fun text => measure text.toList).foldl max 0 + 2)
  narrow room (totalWidth natural) natural

/-! ## Drawing -/

/-- The lines of one text in a column of `columnWidth` cells. A line that begins with joiners may be
too wide, and then takes the place of the blank after it. -/
def cell (columnWidth : Nat) (text : String) : Except CutFault (List (List Char)) := do
  let inner := columnWidth - 2
  (← wrap inner .shorten text.toList).mapM fun line => do
    let line ← LongWords.fold.cut inner (padTo inner line)
    return ' ' :: (← LongWords.fold.cut (columnWidth - 1) line) ++
      blanks (columnWidth - 1 - width line)

/-- The parts of a line with `bar` around and between them. -/
def barred (bar : Char) (parts : List (List Char)) : List Char :=
  bar :: parts.flatMap (· ++ [bar])

/-- The lines of a row: it is as high as its highest cell. -/
def row (bar : Char) (widths : List Nat) (texts : List String) :
    Except CutFault (List (List Char)) := do
  let cells ← (widths.zip texts).mapM fun (w, text) => do return (w, ← cell w text)
  let height := (cells.map (·.2.length)).foldl max 0
  return (List.range height).map fun i =>
    barred bar (cells.map fun (w, lines) => lines.getD i (blanks w))

/-- A rule: `fill` along the columns, a mark at either end and one between columns. -/
def rule (left fill between right : Char) (widths : List Nat) : List Char :=
  left :: [between].intercalate (widths.map fun w => List.replicate w fill) ++ [right]

/-- A text in the middle of a line, nearer to the left when the room is odd. -/
def centred (lineWidth : Nat) (text : List Char) : List Char :=
  padTo lineWidth (blanks ((lineWidth - width text) / 2) ++ text)

/-- The lines of a table. -/
def draw (limit : Nat) (t : Table) : Except CutFault (List (List Char)) := do
  let widths := t.widths limit
  let top := rule '┏' '━' '┳' '┓' widths
  let head ← row '┃' widths t.headings
  let body ← t.rows.mapM (row '│' widths)
  return centred (width top) t.title.toList :: top :: head ++ rule '┡' '━' '╇' '┩' widths ::
    body.flatten ++ [rule '└' '─' '┴' '┘' widths]

end Table

end FilterQuery.Console
