/-
Printing a text in segments.

A text with stretches of different styles is printed segment by segment, also where the styles cannot
be seen. It is broken into rows as a whole, but then the cells of each segment are counted by
themselves. The two counts differ only where a segment begins inside of a cluster: what follows a
joiner is not hidden from the count there. A row that has become too long is cut.
-/
import FilterQuery.Console.Wrap
import FilterQuery.Text.Regex

set_option autoImplicit false

namespace FilterQuery.Console

open FilterQuery.Text

/-! ## Segments -/

/-- A character, and whether a segment begins with it. -/
abbrev Glyph := Char × Bool

/-- Whether a segment begins at a place for the sake of a stretch: where the stretch begins or ends,
and inside of it after a tab. -/
def divides (t : Stretch) (place : Nat) (afterTab : Bool) : Bool :=
  t.start = place || t.stop = place || (afterTab && t.start < place && place < t.stop)

/-- A text from a place on, with the places where segments begin. -/
def glyphsAfter (stretches : List Stretch) : (place : Nat) → (afterTab : Bool) → List Char →
    List Glyph
  | _, _, [] => []
  | place, afterTab, c :: rest =>
    (c, stretches.any (divides · place afterTab)) ::
      glyphsAfter stretches (place + 1) (c = '\t') rest

/-- A text with the places where segments begin. -/
def glyphs (stretches : List Stretch) (s : List Char) : List Glyph := glyphsAfter stretches 0 false s

/-- The segments of a row. -/
def segments : List Glyph → List (List Char)
  | [] => []
  | [(c, _)] => [[c]]
  | (c, _) :: (d, begins) :: rest =>
    let others := segments ((d, begins) :: rest)
    if begins then [c] :: others else others.modifyHead (c :: ·)

/-- Segments hold all characters of a row. -/
theorem flatten_segments (row : List Glyph) : (segments row).flatten = row.map (·.1) := by
  fun_induction segments row with
  | case1 => rfl
  | case2 => rfl
  | case3 c b d rest others ih =>
    simpa [others] using ih
  | case4 c b d begins rest others h ih =>
    have flat : others.flatten = d :: rest.map (·.1) := by simpa [others] using ih
    cases hs : others with
    | nil => simp [hs] at flat
    | cons first more => simp_all

/-- The beginning of a row of segments that takes no more than some cells. -/
def takeSegments : (cells : Nat) → List (List Char) → Except CutFault (List Char)
  | _, [] => .ok []
  | cells, segment :: rest =>
    if width segment < cells then do
      return segment ++ (← takeSegments (cells - width segment) rest)
    else LongWords.fold.cut cells segment

/-- A row whose segments together take no more than some cells. -/
def fitSegments (cells : Nat) (row : List (List Char)) : Except CutFault (List Char) :=
  if (row.map width).foldl (· + ·) 0 ≤ cells then .ok row.flatten else takeSegments cells row

/-! ## Rows -/

/-- A line in parts, each of which but the last ends with a tab. -/
def tabbed : List Glyph → List (List Glyph)
  | [] => [[]]
  | g :: rest => if g.1 = '\t' then [g] :: tabbed rest else (tabbed rest).modifyHead (g :: ·)

/-- A part with blanks in place of the tab at its end. -/
def expandTab (part : List Glyph) : List Glyph :=
  match part.getLast? with
  | some ('\t', begins) =>
    let spaced := part.dropLast ++ [(' ', begins)]
    spaced ++ (blanks ((8 - width (spaced.map (·.1)) % 8) % 8)).map (·, false)
  | _ => part

/-- Each tab replaced by blanks. -/
def expandGlyphs (line : List Glyph) : List Glyph := (tabbed line).flatMap expandTab

/-- A line of glyphs cut into rows of given lengths. -/
def cutRows : List Nat → List Glyph → List (List Glyph)
  | [], _ => []
  | length :: rest, line => line.take length :: cutRows rest (line.drop length)

/-- The characters of a row with the beginnings of segments that stand at the same places. -/
def markRow : List Char → List Glyph → List Glyph
  | [], _ => []
  | c :: rest, [] => (c, false) :: markRow rest []
  | c :: rest, (_, begins) :: glyphs => (c, begins) :: markRow rest glyphs

/-- The rows that a line is broken into. -/
def glyphRows (limit : Nat) (line : List Glyph) : Except CutFault (List (List Glyph)) :=
  let line := expandGlyphs line
  let found := rows limit .fold (line.map (·.1))
  (cutRows (found.map List.length) line).mapM fun row => do
    return markRow (← fitRow limit .fold (row.map (·.1))) row

/-- Whether a text is printed as it is, in one row and without a tab. -/
def isOneRow (limit : Nat) (s : List Char) : Bool :=
  !s.contains '\n' && !s.contains '\t' && (rows limit .fold s).length ≤ 1

/-- Whether something that is printed of a text lies in a stretch. A stretch without characters is kept
only where the text is not taken apart. -/
def isPrinted (s : List Char) (t : Stretch) : Bool :=
  if t.start < t.stop then ((s.drop t.start).take (t.stop - t.start)).any (· ≠ '\n')
  else isOneRow terminalWidth s

/-- The rows that a text is broken into, marked where segments begin. A stretch without characters
counts only where the text is not taken apart. -/
def textRows (stretches : List Stretch) (s : List Char) : Except CutFault (List (List Glyph)) := do
  let stretches :=
    if isOneRow terminalWidth s then stretches else stretches.filter fun t => t.start < t.stop
  let lines := piecesAt (·.1 = '\n') (glyphs stretches s)
  return (← lines.mapM (glyphRows terminalWidth)).flatten

/-- Rows as they are printed in segments. -/
def printRows (rows : List (List Glyph)) : Except CutFault String := do
  return printLines (← rows.mapM fun row => fitSegments terminalWidth (segments row))

end FilterQuery.Console
