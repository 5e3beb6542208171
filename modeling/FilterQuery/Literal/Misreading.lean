/-
What keeps a text from being read as an expression.

The causes are grouped by what they are about: characters, numbers, texts in quotes, brackets, the
layout of lines, and the order of the words. Each has one wording, and a text inside an interpolated
one is reported with that in front.
-/
import FilterQuery.Literal.Form
import FilterQuery.Text.Quoted

set_option autoImplicit false

namespace FilterQuery.Literal

open FilterQuery.Text

/-- What is wrong with an escape in a text. -/
inductive EscapeFault where
  | shortByte | shortCode | longCode | outOfRange | unnamed | unknownName
deriving DecidableEq, Repr

/-- The wording of a fault in an escape. -/
def EscapeFault.text : EscapeFault → String
  | .shortByte => "truncated \\xXX escape"
  | .shortCode => "truncated \\uXXXX escape"
  | .longCode => "truncated \\UXXXXXXXX escape"
  | .outOfRange => "illegal Unicode character"
  | .unnamed => "malformed \\N character escape"
  | .unknownName => "unknown Unicode character name"

/-- What is wrong with an interpolated text outside of its expressions. -/
inductive InterpolationFault where
  | unclosed
  | lonelyBrace
  | noExpression
  | noExpressionBefore (sign : Char)
  | badConversion
  | tooNested
  | tooManyBrackets
  | unmatched (bracket : Char)
  | mismatched (closing opening : Char)
  | openText
  | backslash
  | comment
deriving DecidableEq, Repr

/-- The wording of a fault in an interpolated text. -/
def InterpolationFault.text : InterpolationFault → String
  | .unclosed => "f-string: expecting '\x7d'"
  | .lonelyBrace => "f-string: single '\x7d' is not allowed"
  | .noExpression => "f-string: empty expression not allowed"
  | .noExpressionBefore sign => "f-string: expression required before '" ++ sign.toString ++ "'"
  | .badConversion => "f-string: invalid conversion character: expected 's', 'r', or 'a'"
  | .tooNested => "f-string: expressions nested too deeply"
  | .tooManyBrackets => "f-string: too many nested parenthesis"
  | .unmatched bracket => "f-string: unmatched '" ++ bracket.toString ++ "'"
  | .mismatched closing opening =>
    "f-string: closing parenthesis '" ++ closing.toString ++
      "' does not match opening parenthesis '" ++ opening.toString ++ "'"
  | .openText => "f-string: unterminated string"
  | .backslash => "f-string expression part cannot include a backslash"
  | .comment => "f-string expression part cannot include '#'"

/-- What is wrong with the parameters of a nameless function. -/
inductive ParameterFault where
  | nothingBeforeSlash | slashTwice | slashAfterStar | noCommaBeforeStar
  | defaultFirst | missingDefault | bracketed
  | bareStar | starWithDefault | starTwice
  | doubleStarWithDefault | afterDoubleStar
deriving DecidableEq, Repr

/-- The wording of a fault in the parameters of a nameless function. -/
def ParameterFault.text : ParameterFault → String
  | .nothingBeforeSlash => "at least one argument must precede /"
  | .slashTwice => "/ may appear only once"
  | .slashAfterStar => "/ must be ahead of *"
  | .noCommaBeforeStar => "expected comma between / and *"
  | .defaultFirst => "non-default argument follows default argument"
  | .missingDefault => "expected default value expression"
  | .bracketed => "Lambda expression parameters cannot be parenthesized"
  | .bareStar => "named arguments must follow bare *"
  | .starWithDefault => "var-positional argument cannot have default value"
  | .starTwice => "* argument may appear only once"
  | .doubleStarWithDefault => "var-keyword argument cannot have default value"
  | .afterDoubleStar => "arguments cannot follow var-keyword argument"

/-- What keeps a text from being read as an expression. -/
inductive Misreading where
  | nullCharacter
  | badCharacter (c : Char)
  | hiddenCharacter (c : Char)
  | badNumber (kind : NumberForm)
  | badDigit (digit : Char) (kind : NumberForm)
  | leadingZeros
  | tooManyDigits (count : Nat)
  | openText (long : Bool) (line : Nat)
  | mixedTexts
  | foreignByte
  | badEscape (fault : EscapeFault) (first last : Nat)
  | badByteEscape (position : Nat)
  | tooManyBrackets
  | unmatched (bracket : Char)
  /-- The line of the opening bracket is given if it is another one. -/
  | mismatched (closing opening : Char) (line : Option Nat)
  | neverClosed (bracket : Char)
  | afterBackslash
  | unexpectedEnd
  | indented
  | unindented
  | unevenIndent
  | mixedIndent
  | tooManyIndents
  /-- The words are in no order that means anything. -/
  | senseless
  | missingComma
  | missingElse
  | missingBrackets (name : String)
  | badNaming (form : Form)
  | assignmentForComparison
  | assignmentHere (form : Form)
  | assignment (form : Form)
  | assignmentInCall
  | bareGenerator
  | afterNamed
  | afterUnpacking
  | unpackingOrder
  | bareStar
  | starHere
  | doubleStarHere
  | starInComprehension
  | bareTarget
  | tableInComprehension
  | keyWithoutColon
  | keyWithoutValue
  | starredValue
  | parameters (fault : ParameterFault)
  | interpolation (fault : InterpolationFault)
  /-- What is wrong with an expression inside an interpolated text. -/
  | interpolated (fault : Misreading)
  | tooDeep
deriving DecidableEq, Repr

namespace Misreading

/-- The number of a character, as it is written. -/
def codeText (c : Char) : String :=
  let digits := (Nat.toDigits 16 c.toNat).map Char.toUpper
  "U+" ++ String.ofList (List.replicate (4 - digits.length) '0' ++ digits)

/-- The wording of a cause. -/
def message : Misreading → String
  | .nullCharacter => "source code string cannot contain null bytes"
  | .badCharacter c => "invalid character '" ++ c.toString ++ "' (" ++ codeText c ++ ")"
  | .hiddenCharacter c => "invalid non-printable character " ++ codeText c
  | .badNumber kind => "invalid " ++ kind.text ++ " literal"
  | .badDigit digit kind => "invalid digit '" ++ digit.toString ++ "' in " ++ kind.text ++ " literal"
  | .leadingZeros =>
    "leading zeros in decimal integer literals are not permitted; " ++
      "use an 0o prefix for octal integers"
  | .tooManyDigits count =>
    "Exceeds the limit (4300 digits) for integer string conversion: value has " ++
      toString count ++ " digits; use sys.set_int_max_str_digits() to increase the limit - " ++
      "Consider hexadecimal for huge integer literals to avoid decimal conversion limits."
  | .openText long line =>
    "unterminated " ++ (if long then "triple-quoted " else "") ++
      "string literal (detected at line " ++ toString line ++ ")"
  | .mixedTexts => "cannot mix bytes and nonbytes literals"
  | .foreignByte => "bytes can only contain ASCII literal characters"
  | .badEscape fault first last =>
    "(unicode error) 'unicodeescape' codec can't decode bytes in position " ++ toString first ++
      "-" ++ toString last ++ ": " ++ fault.text
  | .badByteEscape position =>
    "(value error) invalid \\x escape at position " ++ toString position
  | .tooManyBrackets => "too many nested parentheses"
  | .unmatched bracket => "unmatched '" ++ bracket.toString ++ "'"
  | .mismatched closing opening line =>
    "closing parenthesis '" ++ closing.toString ++ "' does not match opening parenthesis '" ++
      opening.toString ++ "'" ++ line.elim "" fun line => " on line " ++ toString line
  | .neverClosed bracket => "'" ++ bracket.toString ++ "' was never closed"
  | .afterBackslash => "unexpected character after line continuation character"
  | .unexpectedEnd => "unexpected EOF while parsing"
  | .indented => "unexpected indent"
  | .unindented => "unexpected unindent"
  | .unevenIndent => "unindent does not match any outer indentation level"
  | .mixedIndent => "inconsistent use of tabs and spaces in indentation"
  | .tooManyIndents => "too many levels of indentation"
  | .senseless => "invalid syntax"
  | .missingComma => "invalid syntax. Perhaps you forgot a comma?"
  | .missingElse => "expected 'else' after 'if' expression"
  | .missingBrackets name =>
    "Missing parentheses in call to '" ++ name ++ "'. Did you mean " ++ name ++ "(...)?"
  | .badNaming form => "cannot use assignment expressions with " ++ form.text
  | .assignmentForComparison =>
    "invalid syntax. Maybe you meant '==' or ':=' instead of '='?"
  | .assignmentHere form =>
    "cannot assign to " ++ form.text ++ " here. Maybe you meant '==' instead of '='?"
  | .assignment form => "cannot assign to " ++ form.text
  | .assignmentInCall =>
    "expression cannot contain assignment, perhaps you meant \"==\"?"
  | .bareGenerator => "Generator expression must be parenthesized"
  | .afterNamed => "positional argument follows keyword argument"
  | .afterUnpacking => "positional argument follows keyword argument unpacking"
  | .unpackingOrder =>
    "iterable argument unpacking follows keyword argument unpacking"
  | .bareStar => "Invalid star expression"
  | .starHere => "cannot use starred expression here"
  | .doubleStarHere => "cannot use double starred expression here"
  | .starInComprehension => "iterable unpacking cannot be used in comprehension"
  | .bareTarget => "did you forget parentheses around the comprehension target?"
  | .tableInComprehension => "dict unpacking cannot be used in dict comprehension"
  | .keyWithoutColon => "':' expected after dictionary key"
  | .keyWithoutValue => "expression expected after dictionary key and ':'"
  | .starredValue => "cannot use a starred expression in a dictionary value"
  | .parameters fault => fault.text
  | .interpolation fault => fault.text
  | .interpolated fault => "f-string: " ++ fault.message
  | .tooDeep => ""

end Misreading

end FilterQuery.Literal
