/-
The words and signs of expressions.

A text is cut into names, words with a meaning of their own, numbers, texts in quotes and signs.
Lines matter outside of brackets only: there the end of a line is a token, and so is a change of the
indentation. A backslash at the end of a line joins it with the next one.

Brackets are matched while the text is cut, so a bracket that closes none, or another one than it
should, is a fault of the cutting. A text that ends inside brackets is not finished; whether that
matters shows when a reader comes to its end.
-/
import FilterQuery.Literal.Numeral
import FilterQuery.Literal.Quotation

set_option autoImplicit false

namespace FilterQuery.Literal

open FilterQuery.Text

/-! ## Tokens -/

/-- What a token is. -/
inductive Token.Kind where
  | name (letters : List Char)
  /-- A word with a meaning of its own. -/
  | word (word : String)
  | number (text : List Char)
  | text (quotation : Quotation)
  | sign (sign : String)
  | lineEnd
  | indent
  | unindent
  | done
deriving DecidableEq, Repr

/-- A token, with the line it begins on and the number of brackets open after it. -/
structure Token where
  kind : Token.Kind
  line : Nat
  depth : Nat
deriving DecidableEq, Repr

/-- The words with a meaning of their own. -/
def words : List String :=
  ["False", "None", "True", "and", "as", "assert", "async", "await", "break", "class", "continue",
    "def", "del", "elif", "else", "except", "finally", "for", "from", "global", "if", "import", "in",
    "is", "lambda", "nonlocal", "not", "or", "pass", "raise", "return", "try", "while", "with",
    "yield"]

/-- The signs of more than one character, the longer ones first. -/
def longSigns : List String :=
  ["...", "**=", "//=", ">>=", "<<=", "!=", "%=", "&=", "**", "*=", "+=", "-=", "->", "//", "/=", ":=",
    "<<", "<=", "<>", "==", ">=", ">>", "@=", "^=", "|="]

/-- What a text is cut into, and how it ends. -/
structure Cut where
  tokens : List Token
  /-- What is wrong with the text after the tokens. -/
  fault : Option Misreading
  /-- Whether the fault is one of a place and not of the text there, as when it is over too early. -/
  soft : Bool
  /-- The bracket opened last of those still open after the tokens, with its line. -/
  unclosed : Option (Char × Nat)
  /-- Whether the end of the text had to be seen to tell the last token. -/
  endSeen : Bool := false
deriving DecidableEq, Repr

/-- A cut with tokens in front. -/
def Cut.behind (cut : Cut) (tokens : List Token) : Cut := { cut with tokens := tokens ++ cut.tokens }

namespace Token

/-! ## Places -/

/-- Where the cutting of a text has come to. -/
structure Place where
  line : Nat
  /-- The open brackets with their lines, the last one first. -/
  brackets : List (Char × Nat) := []
  /-- The indentations that hold here, the innermost first, counted with wide and with narrow tabs. -/
  indents : List (Nat × Nat) := [(0, 0)]
  lineStart : Bool := true
deriving DecidableEq, Repr

/-- A token at a place. -/
def Place.token (place : Place) (kind : Kind) : Token :=
  ⟨kind, place.line, place.brackets.length⟩

/-- The cut that ends at a place with a fault, which is `soft` if it is one of the place. -/
def Place.stop (place : Place) (fault : Misreading) (soft : Bool) : Cut :=
  { tokens := [], fault := some fault, soft, unclosed := place.brackets.head? }

/-- The fault of a text that ends too early. -/
def Place.endFault (place : Place) : Misreading :=
  match place.brackets with
  | (bracket, _) :: _ => .neverClosed bracket
  | [] => .unexpectedEnd

/-! ## Indentation -/

/-- The width of the indentation of a line: with tabs to eight and to one, and at the first backslash
that ends a line in it, if any. -/
structure Margin where
  wide : Nat := 0
  narrow : Nat := 0
  split : Nat := 0
deriving DecidableEq, Repr

/-- The indentation of a line, the number of lines passed in it, and what follows it. -/
def margin (m : Margin) (passed : Nat) : List Char → Except Misreading (Margin × Nat × List Char)
  | [] => .ok (m, passed, [])
  | ' ' :: rest => margin { m with wide := m.wide + 1, narrow := m.narrow + 1 } passed rest
  | '\t' :: rest =>
    margin { m with wide := (m.wide / 8 + 1) * 8, narrow := m.narrow + 1 } passed rest
  | '\x0c' :: rest => margin { m with wide := 0, narrow := 0 } passed rest
  | '\\' :: '\n' :: rest =>
    if rest = [] then .error .unexpectedEnd
    else margin { m with split := if m.split = 0 then m.wide else m.split } (passed + 1) rest
  | '\\' :: _ => .error .afterBackslash
  | rest => .ok (m, passed, rest)

/-- The most indentations that may hold at once. -/
def mostIndents : Nat := 100

/-- The indentations after a line with some indentation, and the tokens for the change. -/
def changeIndent (indents : List (Nat × Nat)) (wide narrow : Nat) :
    Except Misreading (List (Nat × Nat) × List Kind) :=
  match indents with
  | [] => .ok ([(wide, narrow)], [])
  | (lastWide, lastNarrow) :: _ =>
    if wide = lastWide then
      if narrow = lastNarrow then .ok (indents, []) else .error .mixedIndent
    else if lastWide < wide then
      if mostIndents ≤ indents.length then .error .tooManyIndents
      else if narrow ≤ lastNarrow then .error .mixedIndent
      else .ok ((wide, narrow) :: indents, [.indent])
    else
      let kept := indents.dropWhile fun (w, _) => wide < w
      match kept with
      | (keptWide, keptNarrow) :: _ =>
        if keptWide ≠ wide then .error .unevenIndent
        else if keptNarrow ≠ narrow then .error .mixedIndent
        else .ok (kept, List.replicate (indents.length - kept.length) .unindent)
      | [] => .error .unevenIndent

/-! ## Signs and names -/

/-- Whether a character is a blank between tokens. -/
def isBlankSign (c : Char) : Bool :=
  c = ' ' || c = '\t' || c = '\x0c'

/-- The most brackets that may be open at once. -/
def mostBrackets : Nat := 200

/-- The sign that a text begins with, and what follows it. -/
def cutSign (s : List Char) : String × List Char :=
  match longSigns.find? fun sign => sign.toList.isPrefixOf s with
  | some sign => (sign, s.drop sign.length)
  | none => (String.ofList (s.take 1), s.drop 1)

/-- The place after a sign of one character. -/
def Place.afterSign (place : Place) (c : Char) : Except Misreading Place :=
  if c = '(' || c = '[' || c = '{' then
    if mostBrackets ≤ place.brackets.length then .error .tooManyBrackets
    else .ok { place with brackets := (c, place.line) :: place.brackets }
  else if c = ')' || c = ']' || c = '}' then
    match place.brackets with
    | [] => .error (.unmatched c)
    | (opening, line) :: brackets =>
      if [('(', ')'), ('[', ']'), ('{', '}')].contains (opening, c) then
        .ok { place with brackets }
      else .error (.mismatched c opening (if line = place.line then none else some line))
  else if isPrintable c then .ok place
  else .error (.hiddenCharacter c)

/-- The fault of letters that are to be a name. -/
def nameFault? (letters : List Char) : Option Misreading :=
  (Text.nameFault? letters).map fun c =>
    if isPrintable c then .badCharacter c else .hiddenCharacter c

/-- A name, or a word with a meaning of its own. -/
def ofLetters (letters : List Char) : Kind :=
  let word := String.ofList letters
  if words.contains word then .word word else .name letters

/-! ## Cutting a text -/

/-- What a text begins with: a token, the place after it and what follows. The text begins neither
with a blank nor with the end of a line. -/
def first (place : Place) (s : List Char) : Except Misreading (Token × Place × List Char) :=
  match s with
  | [] => .ok (place.token .done, place, [])
  | c :: rest =>
    let letters := s.takeWhile resemblesName
    let after := s.drop letters.length
    match Quotation.marks? letters, after with
    | some marks, '\'' :: body | some marks, '"' :: body => do
      let quote := after.headD '"'
      let (text, rest) ← Quotation.cut quote place.line body
      let quotation :=
        ⟨marks.contains 'r', marks.contains 'b', marks.contains 'f', text⟩
      let passed := text.count '\n'
      return (place.token (.text quotation), { place with line := place.line + passed }, rest)
    | _, _ =>
      if c.isDigit then do
        let after ← Numeral.afterFirst c rest
        let text := s.take (s.length - after.length)
        return (place.token (.number text), place, after)
      else if c = '.' && rest.head?.any Char.isDigit then do
        let after ← Numeral.afterPoint rest
        let text := s.take (s.length - after.length)
        return (place.token (.number text), place, after)
      else if letters ≠ [] then
        match nameFault? letters with
        | some fault => .error fault
        | none => .ok (place.token (ofLetters letters), place, after)
      else do
        let (sign, after) := cutSign s
        let next ← if sign.length = 1 then place.afterSign c else .ok place
        return (next.token (.sign sign), next, after)

/-- Whether a token of some length that ends its text could go on. Quotes that closed cannot, but for
two that might begin a group of three. -/
def Kind.needsEnd (kind : Kind) (length : Nat) : Bool :=
  match kind with
  | .text quotation => quotation.body = [] && length < 6
  | .sign s => s.length < 3
  | _ => true

/-- Cuts a text from a place on. Every step but those at the start of a line takes a character, so
twice their number bounds the steps. -/
def cutFrom : (bound : Nat) → Place → List Char → Cut
  | 0, place, _ => place.stop .tooDeep false
  | bound + 1, place, s =>
    if place.lineStart then
      match margin {} 0 s with
      | .error fault =>
        place.stop (if fault = .unexpectedEnd then place.endFault else fault) true
      | .ok (m, passed, rest) =>
        let next := { place with line := place.line + passed, lineStart := false }
        if rest.head?.any fun c => c = '#' || c = '\n' then
          match rest.dropWhile (· ≠ '\n') with
          | '\n' :: rest =>
            let line := if rest = [] then next.line else next.line + 1
            cutFrom bound { next with line, lineStart := true } rest
          | rest => cutFrom bound next rest
        else if place.brackets ≠ [] then cutFrom bound next rest
        else
          let wide := if m.split = 0 then m.wide else m.split
          let narrow := if m.split = 0 then m.narrow else m.split
          match changeIndent next.indents wide narrow with
          | .error fault => next.stop fault true
          | .ok (indents, kinds) =>
            let next := { next with indents }
            (cutFrom bound next rest).behind (kinds.map next.token)
    else
      match s with
      | [] =>
        match place.brackets with
        | [] => { tokens := [place.token .done], fault := none, soft := false, unclosed := none }
        | _ => place.stop place.endFault true
      | '\\' :: '\n' :: rest =>
        if rest = [] then place.stop place.endFault true
        else cutFrom bound { place with line := place.line + 1 } rest
      | '\\' :: _ => place.stop .afterBackslash true
      | '#' :: rest => cutFrom bound place (rest.dropWhile (· ≠ '\n'))
      | '\n' :: rest =>
        let line := if rest = [] then place.line else place.line + 1
        let next := { place with line, lineStart := true }
        let ends := if place.brackets = [] then [place.token .lineEnd] else []
        (cutFrom bound next rest).behind ends
      | c :: rest =>
        if isBlankSign c then cutFrom bound place rest
        else
          match first place (c :: rest) with
          | .error fault => place.stop fault false
          | .ok (token, next, after) =>
            let cut := (cutFrom bound next after).behind [token]
            if after = [] then { cut with endSeen := token.kind.needsEnd (rest.length + 1) }
            else cut

/-- Cuts a text whose first line has a number. -/
def cut (line : Nat) (s : List Char) : Cut :=
  cutFrom (2 * s.length + 2) { line } s

end Token

end FilterQuery.Literal
