/-
Texts with expressions in them.

An expression stands in braces, and doubled braces mean themselves. After the expression may come `=`
to show it, `!` with a letter for its form, and `:` with a format, which is a text of the same kind
whose expressions have formats without any. Inside the braces there is neither a backslash nor a
comment, and the expression ends at the first sign that cannot belong to it, outside of the brackets
and quotes that it opens.

What is wrong is found from the front to the back, and each expression is read as soon as its end is
known. Every step of the reading takes a character at least, so their number bounds it.
-/
import FilterQuery.Literal.Quotation

set_option autoImplicit false

namespace FilterQuery.Literal.Interpolation

open FilterQuery.Literal

/-! ## The text before an expression -/

/-- A stretch of text: what it says, what follows it, and whether it ended with a doubled brace. -/
structure Stretch where
  text : List Char
  rest : List Char
  doubled : Bool
deriving DecidableEq, Repr

/-- A stretch with a character in front. -/
def Stretch.after (c : Char) (s : Stretch) : Stretch := { s with text := c :: s.text }

/-- The end of a stretch at a brace. Outside of formats a brace may be doubled. -/
def endAt (top : Bool) (brace : Char) (rest : List Char) : Except InterpolationFault Stretch :=
  if top && rest.head? = some brace then .ok ⟨[brace], rest.drop 1, true⟩
  else if top && brace = '}' then .error .lonelyBrace
  else .ok ⟨[], brace :: rest, false⟩

/-- The stretch of text that comes next. An escape by a name has braces of its own; `named` tells that
they are open. -/
def stretch (raw top : Bool) : (named : Bool) → List Char → Except InterpolationFault Stretch
  | _, [] => .ok ⟨[], [], false⟩
  | true, c :: rest => do return (← stretch raw top (c != '}') rest).after c
  | false, '\\' :: 'N' :: d :: rest =>
    if raw then do
      let tail ← stretch raw top false ('N' :: d :: rest)
      return tail.after '\\'
    else do
      let tail ← stretch raw top (d = '{') rest
      return ((tail.after d).after 'N').after '\\'
  | false, '\\' :: c :: rest =>
    if raw then do return (← stretch raw top false (c :: rest)).after '\\'
    else if c = '{' || c = '}' then do return (← endAt top c rest).after '\\'
    else do return ((← stretch raw top false rest).after c).after '\\'
  | false, c :: rest =>
    if c = '{' || c = '}' then endAt top c rest
    else do return (← stretch raw top false rest).after c

/-! ## The end of an expression -/

/-- The most brackets that may be open at once. -/
def mostBrackets : Nat := 200

/-- Whether two brackets match. -/
def isPair (opening closing : Char) : Bool :=
  [('(', ')'), ('[', ']'), ('{', '}')].contains (opening, closing)

/-- Whether a sign ends an expression. A sign that goes on with `=` is a comparison. -/
def endsExpression (c : Char) : Bool :=
  ['!', ':', '}', '='].contains c

/-- What is open at a place inside an expression. -/
structure Inside where
  /-- The quote of the text that is open, and whether it is a group of three. -/
  quote : Option (Char × Bool) := none
  /-- The open brackets, the last one first. -/
  brackets : List Char := []
  /-- The number of characters that belong to the sign before. -/
  passing : Nat := 0
deriving DecidableEq, Repr

/-- What is open after a character of an expression, or nothing if the expression ends before it. -/
def Inside.step (inside : Inside) (c : Char) (rest : List Char) :
    Except InterpolationFault (Option Inside) :=
  if inside.passing ≠ 0 then .ok (some { inside with passing := inside.passing - 1 })
  else if c = '\\' then .error .backslash
  else
    match inside.quote with
    | some (quote, long) =>
      if c ≠ quote then .ok (some inside)
      else if !long then .ok (some { inside with quote := none })
      else if [c, c].isPrefixOf rest then .ok (some { inside with quote := none, passing := 2 })
      else .ok (some inside)
    | none =>
      if c = '\'' || c = '"' then
        if [c, c].isPrefixOf rest then
          .ok (some { inside with quote := some (c, true), passing := 2 })
        else .ok (some { inside with quote := some (c, false) })
      else if c = '(' || c = '[' || c = '{' then
        if mostBrackets ≤ inside.brackets.length then .error .tooManyBrackets
        else .ok (some { inside with brackets := c :: inside.brackets })
      else if c = '#' then .error .comment
      else
        match inside.brackets with
        | [] =>
          if ['!', '=', '<', '>'].contains c && rest.head? = some '=' then
            .ok (some { inside with passing := 1 })
          else if endsExpression c then .ok none
          else if c = ')' || c = ']' then .error (.unmatched c)
          else .ok (some inside)
        | opening :: brackets =>
          if c = ')' || c = ']' || c = '}' then
            if isPair opening c then .ok (some { inside with brackets })
            else .error (.mismatched c opening)
          else .ok (some inside)

/-- An expression and what follows it, from a place on. -/
def cutExpression (inside : Inside) : List Char → Except InterpolationFault (List Char × List Char)
  | [] =>
    if inside.quote.isSome then .error .openText
    else
      match inside.brackets with
      | [] => .ok ([], [])
      | bracket :: _ => .error (.unmatched bracket)
  | c :: rest => do
    match ← inside.step c rest with
    | none => return ([], c :: rest)
    | some inside =>
      let (expression, rest) ← cutExpression inside rest
      return (c :: expression, rest)

/-! ## The whole text -/

/-- Whether a character is a blank between the words of an expression. -/
def isGap (c : Char) : Bool :=
  c = ' ' || c = '\t' || c = '\n' || c = '\x0c'

/-- Whether a character is a blank that may follow the sign which shows an expression. -/
def isSpace (c : Char) : Bool :=
  c = ' ' || ('\t' ≤ c && c ≤ '\r')

/-- How a text is checked: by how its expressions are read, which begin on a line, and how its own
faults are reported. -/
structure Reader where
  raw : Bool
  read : List Char → (line : Nat) → Except Misreading Unit
  report : Misreading → Misreading

/-- A fault as it is reported. -/
def Reader.fail {α : Type} (reader : Reader) (fault : InterpolationFault) : Except Misreading α :=
  .error (reader.report (.interpolation fault))

/-- A result whose fault is to be reported. -/
def Reader.lift {α : Type} (reader : Reader) (result : Except InterpolationFault α) :
    Except Misreading α :=
  result.mapError fun fault => reader.report (.interpolation fault)

/-- Reads an expression that ends before a sign. -/
def Reader.readExpression (reader : Reader) (expression : List Char) (sign : Char) (line : Nat) :
    Except Misreading Unit :=
  if expression.all isGap then
    reader.fail (if sign = '}' then .noExpression else .noExpressionBefore sign)
  else reader.read ('(' :: expression ++ [')']) line

/-- What follows the form of an expression. -/
def Reader.afterConversion (reader : Reader) (s : List Char) : Except Misreading (List Char) :=
  match s with
  | '!' :: [] => reader.fail .unclosed
  | '!' :: c :: rest =>
    if ['s', 'r', 'a'].contains c then .ok rest else reader.fail .badConversion
  | s => .ok s

/-- The number of lines that a text leaves behind, when it is known what follows it. -/
def lines (before after : List Char) : Nat :=
  before.count '\n' - after.count '\n'

/-- Checks a text from a line on; formats are texts within texts. What follows a format is given, the
rest of a whole text is empty. -/
def Reader.check (reader : Reader) : (bound : Nat) → (level line : Nat) → List Char →
    Except Misreading (List Char)
  | 0, _, _, _ => .error .tooDeep
  | bound + 1, level, line, s => do
    let piece ← reader.lift (stretch reader.raw (level = 0) false s)
    (Quotation.checkEscapes reader.raw piece.text).mapError reader.report
    let line := line + lines s piece.rest
    if piece.doubled then reader.check bound level line piece.rest
    else
      match piece.rest with
      | '{' :: rest =>
        if 2 ≤ level then reader.fail .tooNested
        else
          let (expression, after) ← reader.lift (cutExpression {} rest)
          match after with
          | [] => reader.fail .unclosed
          | sign :: _ =>
            reader.readExpression expression sign line
            let after := if sign = '=' then (after.drop 1).dropWhile isSpace else after
            let after ← reader.afterConversion after
            let after ← match after with
              | ':' :: [] => reader.fail .unclosed
              | ':' :: format => reader.check bound (level + 1) (line + lines rest format) format
              | after => pure after
            match after with
            | '}' :: after => reader.check bound level (line + lines rest after) after
            | _ => reader.fail .unclosed
      | rest => if level ≠ 0 && rest.head? ≠ some '}' then reader.fail .unclosed else return rest

end FilterQuery.Literal.Interpolation
