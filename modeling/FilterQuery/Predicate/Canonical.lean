/-
Predicates as query strings: the canonical spelling.

Each condition on a field becomes one parameter, from left to right; how AND was nested is not
spelled. The key names the keyword, the field and the operator's token, except that a check for null
needs no operator. The value is the word for null, or the values of the comparison with the
separator between them; a value of a substring comparison is written without its wildcards. Keys and
values are percent encoded, so nothing in them can be taken for the start of another parameter.
-/
import FilterQuery.BracketKey
import FilterQuery.Percent
import FilterQuery.Predicate

set_option autoImplicit false

namespace FilterQuery.Predicate

/-! ## Values -/

/-- A text without the wildcards around it. Both must be there, and they must not overlap. -/
def stripWildcards (settings : Settings) (s : String) : String :=
  let marker := settings.wildcard.toList
  let text := s.toList
  if marker ≠ [] && marker.isPrefixOf text && marker.isSuffixOf text &&
      2 * marker.length ≤ text.length then
    String.ofList ((text.drop marker.length).take (text.length - 2 * marker.length))
  else s

/-- A value as it is written in a query string. -/
def spell (settings : Settings) : Datum → String
  | .scalar .null => settings.nullWord
  | value => String.ofList value.plain

/-- A value of a comparison as it is written in a query string. -/
def spellOperand (settings : Settings) (op : Comparison) (value : Datum) : String :=
  if op = .like then stripWildcards settings (spell settings value) else spell settings value

/-! ## Parameters -/

/-- A parameter: the spellings of its key and its value. -/
def parameter (settings : Settings) (segments : List String) (value : List Char) : String :=
  String.ofList (Percent.encode (BracketKey.write settings.keyword segments).toList ++ '=' ::
    Percent.encode value)

/-- The parameters of a predicate, one for each condition on a field. -/
def parameters (settings : Settings) : Predicate → List String
  | .nullCheck .isNull field => [parameter settings [field] settings.nullWord.toList]
  | .nullCheck .isNotNull field =>
    [parameter settings [field, Comparison.notEqual.token] settings.nullWord.toList]
  | .comparison op field first rest =>
    let values := (first :: rest).map fun value => (spellOperand settings op value).toList
    [parameter settings [field, op.token] (Text.glue settings.separator values)]
  | .both left right => left.parameters settings ++ right.parameters settings

/-- A predicate as a query string. -/
def toQuery (settings : Settings) (p : Predicate) : String :=
  String.intercalate "&" (p.parameters settings)

end FilterQuery.Predicate
