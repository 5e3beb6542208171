/-
Tags in texts.

A word in brackets that begins with a lower-case letter or one of `#`, `/` and `@` is a tag. It has a
name and, after `=`, perhaps a parameter. A backslash in front of a tag makes it an ordinary text, two
backslashes stand for one that does not, and a bracket that begins no tag is itself.
-/
set_option autoImplicit false

namespace FilterQuery.Console.Markup

/-! ## Tags -/

/-- A tag. -/
structure Tag where
  name : List Char
  parameter : Option (List Char)
deriving DecidableEq, Repr

namespace Tag

/-- The tag with some content between its brackets. -/
def ofContent (content : List Char) : Tag where
  name := content.takeWhile (· != '=')
  parameter :=
    match content.dropWhile (· != '=') with
    | [] => none
    | _ :: parameter => some parameter

/-- What stands between the brackets of a tag. -/
def content (tag : Tag) : List Char :=
  tag.name ++ tag.parameter.elim [] ('=' :: ·)

/-- Nothing of what stands between the brackets is lost. -/
@[simp] theorem content_ofContent (s : List Char) : (ofContent s).content = s := by
  induction s with
  | nil => rfl
  | cons c rest ih =>
    by_cases h : c = '='
    · simp [ofContent, content, h]
    · simpa [ofContent, content, h] using ih

end Tag

/-! ## Finding tags -/

/-- Whether a character may begin a tag. -/
def beginsTag (c : Char) : Bool :=
  ('a' ≤ c && c ≤ 'z') || ['#', '/', '@'].contains c

/-- What stands in the brackets of the tag that a text begins with, and the number of backslashes
before it. -/
def tag? (s : List Char) : Option (Nat × List Char) :=
  let slashes := s.takeWhile (· = '\\')
  match s.drop slashes.length with
  | '[' :: rest =>
    let content := rest.takeWhile fun c => c != '[' && c != ']'
    if rest.head?.any beginsTag && rest[content.length]? = some ']' then
      some (slashes.length, content)
    else none
  | _ => none

/-- A part of a text. -/
inductive Part where
  | text (chars : List Char)
  /-- A tag, and where in the text it stands. -/
  | tag (tag : Tag) (position : Nat)
deriving DecidableEq, Repr

/-- A text without the backslashes before its brackets. -/
def bare : List Char → List Char
  | [] => []
  | [c] => [c]
  | c :: d :: rest => if c = '\\' && d = '[' then bare (d :: rest) else c :: bare (d :: rest)

/-- A part for a stretch of text, if it has any characters. -/
def textPart (chars : List Char) : List Part :=
  if chars = [] then [] else [.text (bare chars)]

/-- The parts of a text from a position on, of which `skip` characters are to be passed over and which
stands after the characters `pending` that belong to no tag. -/
def partsAfter (position skip : Nat) (pending : List Char) : List Char → List Part
  | [] => textPart pending
  | c :: rest =>
    match skip with
    | skip + 1 => partsAfter (position + 1) skip pending rest
    | 0 =>
      match tag? (c :: rest) with
      | some (slashes, content) =>
        textPart pending ++ textPart (List.replicate (slashes / 2) '\\') ++
          (if slashes % 2 = 1 then .text ('[' :: content ++ [']'])
            else .tag (.ofContent content) (position + slashes)) ::
          partsAfter (position + 1) (slashes + content.length + 1) [] rest
      | none => partsAfter (position + 1) 0 (pending ++ [c]) rest

/-- The parts of a text. -/
def parts (s : List Char) : List Part := partsAfter 0 0 [] s

end FilterQuery.Console.Markup
