/-
Reading expressions.

A text is cut into tokens, and the tokens are read by the grammar. If that fails, several things may
be wrong at once, and one of them is reported: what the grammar finds, unless the rest of the text
cannot even be cut into tokens, which counts more; and if the grammar finds nothing in particular,
only that the text makes no sense.

The expressions inside of texts are read in the same way. Each is shorter than the text around it, so
the length of the whole bounds how deep they can lie.
-/
import FilterQuery.Literal.Interpolation
import FilterQuery.Literal.Phrase

set_option autoImplicit false

namespace FilterQuery.Literal

/-! ## Texts in quotes -/

/-- Reads texts in quotes that stand next to each other and make one. -/
def readTexts (report : Misreading → Misreading)
    (read : List Char → (line : Nat) → Except Misreading Unit)
    (texts : List (Quotation × Nat)) : Except Misreading Expression := do
  let bytes := texts.head?.any (·.1.bytes)
  for (q, line) in texts do
    unless q.interpolated do q.check.mapError report
    if q.bytes ≠ bytes then throw (report .mixedTexts)
    if q.interpolated then
      let reader : Interpolation.Reader := { raw := q.raw, read, report }
      let _ ← reader.check (q.body.length + 1) 0 line q.body
  return if texts.any (·.1.interpolated) then .other .interpolated
    else .constant (if bytes then .bytes else .text)

/-! ## What is reported -/

/-- What is wrong after the tokens that a reading asked for, if that counts more than what the reading
found: a fault in the text that follows does, and so does a bracket left open on a line before. -/
def Cut.overriding? (cut : Cut) (report : Misreading → Misreading) (reach : Nat) :
    Option Misreading := do
  let fault ← cut.fault
  if !cut.soft then return fault
  let (bracket, line) ← cut.unclosed
  let token ← cut.tokens[reach - 1]?
  if line < token.line then report (.neverClosed bracket) else none

/-- The fault that is reported when a reading found one after some tokens. What is wrong with the
rest of the text does not count where the reading has seen the end of it. -/
def Cut.reported (cut : Cut) (report : Misreading → Misreading) (reach : Nat)
    (fault : Misreading) : Misreading :=
  if cut.tokens.length < reach || (cut.endSeen && cut.tokens.length = reach) then fault
  else (cut.overriding? report reach).getD fault

/-- What is wrong after the last token. -/
def Cut.beyond (cut : Cut) (report : Misreading → Misreading) : Misreading :=
  match cut.fault with
  | none => report .senseless
  | some fault => if cut.soft then report fault else fault

/-- The fault of a text that makes no sense up to some token. -/
def Cut.mismatch (cut : Cut) (report : Misreading → Misreading) (reach diagnosed : Nat) :
    Misreading :=
  match cut.tokens[reach - 1]? with
  | some ⟨.indent, _, _⟩ => report .indented
  | some ⟨.unindent, _, _⟩ => report .unindented
  | _ => (cut.overriding? report diagnosed).getD (report .senseless)

/-! ## Expressions -/

/-- Reads tokens by a phrase. -/
def Cut.read (cut : Cut) (context : Phrase.Context) (start : Phrase) :
    Except Misreading Expression :=
  let source : Grammar.Source Token Misreading :=
    { tokens := cut.tokens.toArray, beyond := cut.beyond context.report }
  match (Phrase.grammar context).parse source start with
  | .node (.expression e) => .ok e
  | .node _ => .error .tooDeep
  | .fault fault reach =>
    .error (cut.reported context.report reach fault)
  | .mismatch reach diagnosed => .error (cut.mismatch context.report reach diagnosed)

/-- Reads an expression, from a line on, that lies inside of a text or is a whole one. -/
def readExpression : (bound : Nat) → (inside : Bool) → (line : Nat) → List Char →
    Except Misreading Expression
  | 0, _, _, _ => .error .tooDeep
  | bound + 1, inside, line, s =>
    let report := if inside then Misreading.interpolated else id
    let read (s : List Char) (line : Nat) : Except Misreading Unit := do
      let _ ← readExpression bound true line (s ++ ['\n'])
      return ()
    let context : Phrase.Context := { report, readTexts := readTexts report read }
    (Token.cut line s).read context (if inside then .inner else .whole)

/-- A text with the ends of its lines written in one way. -/
def unifyLines : List Char → List Char
  | [] => []
  | '\r' :: '\n' :: rest => '\n' :: unifyLines rest
  | '\r' :: rest => '\n' :: unifyLines rest
  | c :: rest => c :: unifyLines rest

/-- Reads a text as an expression. -/
def Expression.ofText (s : List Char) : Except Misreading Expression :=
  let s := s.dropWhile fun c => c = ' ' || c = '\t'
  if s.contains '\x00' then .error .nullCharacter
  else
    let s := unifyLines s
    readExpression (s.length + 1) false 1 s

end FilterQuery.Literal
