/-
Styles of printed texts.

A style is named by words: attributes such as `bold`, some of which have a short name as well, `not`
before an attribute, a colour, `on` before the colour of the background, and `link` before an address.
Several names may say the same in other words or in another order, so they have a normal form: the
attributes in a fixed order, then the colour, the background and the address. A name with a word that
means nothing is its own normal form, but for the case of its letters and the blanks around it.
-/
import FilterQuery.Console.Style.Colour
import FilterQuery.Text.Blank

set_option autoImplicit false

namespace FilterQuery.Console

open FilterQuery.Text

/-! ## Attributes -/

/-- What a style switches on or off, in the order of normal forms. -/
inductive Style.Attribute where
  | bold | dim | italic | underline | blink | fastBlink | reverse | conceal | strike | twiceUnderlined
  | frame | encircle | overline
deriving DecidableEq, Repr

namespace Style.Attribute

def all : List Attribute :=
  [.bold, .dim, .italic, .underline, .blink, .fastBlink, .reverse, .conceal, .strike,
    .twiceUnderlined, .frame, .encircle, .overline]

/-- The name of an attribute. -/
def name : Attribute → String
  | .bold => "bold"
  | .dim => "dim"
  | .italic => "italic"
  | .underline => "underline"
  | .blink => "blink"
  | .fastBlink => "blink2"
  | .reverse => "reverse"
  | .conceal => "conceal"
  | .strike => "strike"
  | .twiceUnderlined => "underline2"
  | .frame => "frame"
  | .encircle => "encircle"
  | .overline => "overline"

/-- The short name of an attribute. -/
def shortName? : Attribute → Option String
  | .bold => some "b"
  | .dim => some "d"
  | .italic => some "i"
  | .underline => some "u"
  | .reverse => some "r"
  | .conceal => some "c"
  | .strike => some "s"
  | .twiceUnderlined => some "uu"
  | .overline => some "o"
  | .blink | .fastBlink | .frame | .encircle => none

def ofName? (name : String) : Option Attribute :=
  all.find? fun a => a.name = name || a.shortName? = some name

end Style.Attribute

/-! ## Styles -/

/-- A style. The attributes named last come first. -/
structure Style where
  attributes : List (Style.Attribute × Bool) := []
  colour : Option String := none
  background : Option String := none
  link : Option String := none
deriving DecidableEq, Repr

namespace Style

/-- The style with what some words add to it. -/
def extend (style : Style) : List (List Char) → Except NoStyle Style
  | [] => .ok style
  | word :: rest =>
    let name := String.ofList (lower word)
    if name = "on" then
      match rest with
      | [] => .error .unknown
      | next :: rest => do
        let colour ← Colour.ofWord next
        extend { style with background := some colour } rest
    else if name = "not" then
      match rest with
      | [] => .error .unknown
      | next :: rest =>
        match Attribute.ofName? (String.ofList next) with
        | some a => extend { style with attributes := (a, false) :: style.attributes } rest
        | none => .error .unknown
    else if name = "link" then
      match rest with
      | [] => .error .unknown
      | next :: rest => extend { style with link := some (String.ofList next) } rest
    else
      match Attribute.ofName? name with
      | some a => extend { style with attributes := (a, true) :: style.attributes } rest
      | none => do
        let colour ← Colour.ofWord word
        extend { style with colour := some colour } rest

/-- The style that words name. -/
def ofWords (words : List (List Char)) : Except NoStyle Style := extend {} words

/-- The words of the normal form of a style's name. -/
def words (style : Style) : List String :=
  (Attribute.all.flatMap fun a =>
    match style.attributes.lookup a with
    | some true => [a.name]
    | some false => ["not", a.name]
    | none => []) ++
  style.colour.toList ++ style.background.toList.flatMap (["on", ·]) ++
    style.link.toList.flatMap (["link", ·])

/-- The normal form of a name. -/
def normalForm (name : List Char) : Except NoStyle (List Char) :=
  match ofWords ((piecesAt isBlank name).filter (· ≠ [])) with
  | .ok style => .ok (String.intercalate " " style.words).toList
  | .error .unknown => .ok (lower (trim name))
  | .error reason => .error reason

end Style

end FilterQuery.Console
