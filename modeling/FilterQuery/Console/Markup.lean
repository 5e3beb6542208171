/-
Texts with style tags.

A tag opens a style or closes one: `[/]` the style opened last, and `[/` with a name the last one open
that has this name in its normal form. A tag that closes nothing makes the whole text unreadable;
styles may be left open. The terminal written to here has no styles, so tags are not shown, but the
text is printed in segments that begin and end where styles do. Between the tags names of pictograms
are replaced, in each stretch of text apart.

A style whose name begins with `@` is an action. What stands after its `=` is what the action works
on: a literal, perhaps with the name of a function before brackets. It is read when the style is
closed, and must be one that can be read.
-/
import FilterQuery.Console.Emoji
import FilterQuery.Console.Markup.Tag
import FilterQuery.Console.Notable
import FilterQuery.Console.Segments
import FilterQuery.Console.Style
import FilterQuery.Literal.Value

set_option autoImplicit false

namespace FilterQuery.Console.Markup

open FilterQuery.Literal FilterQuery.Text

/-! ## Faults -/

/-- Why a text cannot be shown. -/
inductive Fault where
  /-- A tag closes the style opened last, but none is open. -/
  | nothingOpen (position : Nat)
  /-- A tag closes a style that is not open. -/
  | notOpen (tag : Tag) (position : Nat)
  /-- What an action works on cannot be read as an expression. -/
  | misread (argument parameter : List Char) (cause : Misreading)
  /-- What an action works on is no literal. -/
  | worthless (parameter : List Char) (cause : NoValue)
  /-- A tag names a colour that lacks a number. -/
  | missingNumber
  /-- A part of the text cannot be cut. -/
  | uncut (cause : CutFault)
deriving DecidableEq, Repr

/-- The wording of a fault. -/
def Fault.message : Fault → String
  | .nothingOpen position =>
    "closing tag '[/]' at position " ++ toString position ++ " has nothing to close"
  | .notOpen tag position =>
    "closing tag '[" ++ String.ofList tag.content ++ "]' at position " ++ toString position ++
      " doesn't match any open tag"
  | .misread argument parameter cause =>
    "error parsing " ++ String.ofList (quoted argument) ++ " in " ++
      String.ofList (quoted parameter) ++ "; " ++ cause.message
  | .worthless parameter cause =>
    "error parsing " ++ String.ofList (quoted parameter) ++ "; " ++ cause.message
  | .missingNumber => "invalid literal for int() with base 10: ''"
  | .uncut cause => cause.message

/-! ## Actions -/

/-- What an action works on, without the name of its function. A name alone works on nothing. -/
def argument (parameter : List Char) : List Char :=
  let trimmed := trim parameter
  let rest := trimmed.dropWhile fun c => isWordCharacter c || c = '.'
  if rest = [] then ['(', ')']
  else if rest.head? = some '(' && rest.getLast? = some ')' && !rest.contains '\n' then rest
  else trimmed

/-- Checks what an action works on. -/
def checkAction (parameter : List Char) : Except Fault Unit := do
  let argument := argument parameter
  let expression ← (Expression.ofText argument).mapError (.misread argument parameter)
  let _ ← expression.value.mapError (.worthless parameter)

/-! ## Styles -/

/-- A style that is open: the normal form of its name, what stands after it in the tag, and the place
where it begins. -/
structure Opening where
  name : List Char
  parameter : Option (List Char)
  start : Nat
deriving DecidableEq, Repr

/-- A stretch of what is shown, and the words of its style. -/
structure Styled where
  stretch : Stretch
  words : List (List Char)
deriving DecidableEq, Repr

namespace Opening

/-- Whether a style is an action. -/
def isAction (o : Opening) : Bool := o.name.head? = some '@'

/-- The stretch from where a style was opened up to some place, styled by its name and what follows
it. -/
def upTo (o : Opening) (stop : Nat) : Styled where
  stretch := ⟨o.start, stop⟩
  words := piecesAt isBlank (o.name ++ o.parameter.elim [] (' ' :: ·)) |>.filter (· ≠ [])

/-- The stretch of a style that is closed at some place. An action has no words. -/
def close (o : Opening) (stop : Nat) : Except Fault Styled := do
  if o.isAction then
    if let some (c :: rest) := o.parameter then checkAction (c :: rest)
    return { o.upTo stop with words := [] }
  return o.upTo stop

end Opening

/-- The normal form of the name of a style. -/
def normalForm (name : List Char) : Except Fault (List Char) :=
  (Style.normalForm name).mapError fun _ => .missingNumber

/-! ## Reading a text -/

/-- What has been read of a text: the characters to be shown, the styles that are open, the one opened
last first, and those that have been closed. -/
structure Reading where
  chars : List Char := []
  opened : List Opening := []
  closed : List Styled := []
deriving DecidableEq, Repr

namespace Reading

/-- The style that a closing tag closes. -/
def closing (reading : Reading) (tag : Tag) (name : List Char) (position : Nat) :
    Except Fault Opening :=
  match trim name, reading.opened with
  | [], [] => .error (.nothingOpen position)
  | [], last :: _ => .ok last
  | name, opened => do
    let name ← normalForm name
    match opened.find? (·.name = name) with
    | some o => return o
    | none => throw (.notOpen tag position)

/-- Reads a part of a text. -/
def step (reading : Reading) : Part → Except Fault Reading
  | .text chars =>
    .ok { reading with chars := reading.chars ++ withoutControls (Emoji.render chars) }
  | .tag tag position => do
    match tag.name with
    | '/' :: name =>
      let o ← reading.closing tag name position
      return { reading with
        opened := reading.opened.erase o
        closed := (← o.close reading.chars.length) :: reading.closed }
    | name =>
      let o : Opening := ⟨← normalForm name, tag.parameter, reading.chars.length⟩
      return { reading with opened := o :: reading.opened }

/-- The styles of a text that has been read to its end, where all of them end. -/
def styles (reading : Reading) : List Styled :=
  reading.closed ++ reading.opened.map (·.upTo reading.chars.length)

/-- The stretches whose colour lacks a number. -/
def faulty (reading : Reading) : List Stretch :=
  reading.styles.filterMap fun styled =>
    match Style.ofWords styled.words with
    | .error .missingNumber => some styled.stretch
    | _ => none

end Reading

/-- Reads a text. -/
def read (s : List Char) : Except Fault Reading := (parts s).foldlM Reading.step {}

/-! ## Printing -/

/-- A text as it is printed. Of a style whose colour lacks a number it matters only whether anything
printed has it. -/
def printed (s : List Char) : Except Fault String := do
  let reading ← read s
  let stretches := Notable.stretches reading.chars ++ reading.styles.map (·.stretch)
  let rows ← (textRows stretches reading.chars).mapError .uncut
  if reading.faulty.any (isPrinted reading.chars) then throw .missingNumber
  (printRows rows).mapError .uncut

end FilterQuery.Console.Markup
