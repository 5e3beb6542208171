/-
Names of pictograms in printed texts.

A name between two colons is printed as its pictogram, whatever the case of its letters. After the
name `-emoji` or `-text` may ask for the pictogram in colours or as a plain character. Anything else
between two colons is printed as it stands; its second colon does not begin another name. A blank ends
the search for the second colon.
-/
import FilterQuery.Console.Cells
import FilterQuery.Console.Emoji.Table
import FilterQuery.Text.Blank
import FilterQuery.Text.LowerCase

set_option autoImplicit false

namespace FilterQuery.Console.Emoji

open FilterQuery.Text

/-! ## Pictograms by name -/

/-- A pictogram with a skin tone. The tone follows the first character, whose wide form it implies, so
that the selector for it is left out. -/
def toned (tone : Char) : List Char → List Char
  | [] => []
  | c :: rest => c :: tone :: if rest.head? = some Cells.emojiSelector then rest.tail else rest

/-- The pictogram that a name with a skin tone stands for. -/
def tonedOfName? (name : List Char) : Option (List Char) :=
  tones.findSome? fun (tone, modifier) => do
    let base ← (("_" ++ tone ++ "_skin_tone").toList.isSuffixOf? name).map String.ofList
    if tonable.contains base then (named.lookup base).map fun p => toned modifier p.toList
    else none

/-- The pictogram that a name stands for. -/
def ofName? (name : List Char) : Option (List Char) :=
  match named.lookup (String.ofList name) with
  | some pictogram => some pictogram.toList
  | none => tonedOfName? name

/-! ## Codes -/

/-- The endings that ask for a look, and the selectors for it. -/
def looks : List (String × Char) := [("-emoji", Cells.emojiSelector), ("-text", '\ufe0e')]

/-- The pictogram that is meant by what stands between two colons. -/
def ofCode? (code : List Char) : Option (List Char) :=
  match looks.findSome? fun (ending, selector) =>
      (ending.toList.isSuffixOf? code).map fun name => (name, selector) with
  | some (name, selector) => (ofName? (lower name)).map (· ++ [selector])
  | none => ofName? (lower code)

/-- What stands before the next colon, if there is one and no blank comes before it. -/
def code? (s : List Char) : Option (List Char) :=
  let code := s.takeWhile fun c => c != ':' && !isBlank c
  if s[code.length]? = some ':' then some code else none

/-! ## Texts -/

/-- What is printed for a text of which `skip` characters are to be passed over. -/
def renderAfter : (skip : Nat) → List Char → List Char
  | _, [] => []
  | skip + 1, _ :: rest => renderAfter skip rest
  | 0, c :: rest =>
    if c = ':' then
      match code? rest with
      | some code =>
        (ofCode? code).getD (':' :: code ++ [':']) ++ renderAfter (code.length + 1) rest
      | none => c :: renderAfter 0 rest
    else c :: renderAfter 0 rest

/-- What is printed for a text: its codes are replaced by their pictograms. -/
def render (s : List Char) : List Char := renderAfter 0 s

end FilterQuery.Console.Emoji
