/-
The grammar of expressions.

A phrase is a part of an expression that the grammar names. The usual phrases come first, from the
loosest to the tightest: tuples without brackets, conditions, connectives, comparisons, operations,
calls and attributes, and what stands in brackets. The phrases after them describe texts that are no
expressions, so that it can be told what is wrong; they are tried when a text has turned out to be
none, but for entries of tables, which are described wrongly at once.
-/
import FilterQuery.Grammar
import FilterQuery.Literal.Expression
import FilterQuery.Literal.Token

set_option autoImplicit false

namespace FilterQuery.Literal

/-! ## Patterns, names of phrases and nodes -/

/-- What a token is described by. -/
inductive Pattern where
  | sign (sign : String)
  | word (word : String)
  | name
  /-- A name that is, or begins, a word that has a meaning elsewhere. -/
  | softName
  | number
  | text
  | lineEnd
  | done
deriving DecidableEq, Repr

/-- The names that are words with a meaning elsewhere. -/
def softNames : List String := ["_", "case", "match"]

/-- Whether a token is described by a pattern. -/
def Pattern.fits : Pattern → Token → Bool
  | .sign s, token => token.kind = .sign s
  | .word w, token => token.kind = .word w
  | .name, token => (token.kind matches .name _)
  | .softName, token =>
    match token.kind with
    | .name letters => softNames.any fun name => letters.isPrefixOf name.toList
    | _ => false
  | .number, token => (token.kind matches .number _)
  | .text, token => (token.kind matches .text _)
  | .lineEnd, token => token.kind = .lineEnd
  | .done, token => token.kind = .done

/-- The phrases of expressions. -/
inductive Phrase where
  | whole | inner
  | expressions | expression | yielding | starExpressions | starExpression
  | items | item | naming | namedExpression
  | disjunction | conjunction | inversion | comparison | comparisonPart
  | bitOr | bitXor | bitAnd | shift | sum | term | factor | power | awaiting | primary
  | slices | slice | atom | group | texts | list | tuple | set
  | table | entries | entry | pair
  | lambda | lambdaParameters | parameters | slashNoDefault | slashWithDefault | starEtc | doubleStar
  | parameterNoDefault | parameterWithDefault | parameterMaybeDefault | parameter | default
  | forClauses | forClause
  | listComprehension | setComprehension | generator | tableComprehension
  | arguments | args | keywords | starredArgument | keywordOrStarred | keywordOrDoubleStarred
  | targets | targetsInList | targetsInTuple | target | targetAtom | starAtom | targetPrimary
  | targetAhead
  -- phrases that describe what is wrong
  | expressionQuietly
  | wrongExpression | wrongStatement | wrongNaming | wrongArguments | wrongKeyword
  | wrongComprehension | wrongTableComprehension | wrongGroup
  | wrongParameters | defaultsFirst | wrongStarEtc | wrongDoubleStar | wrongDefault
  | wrongTarget | wrongEntries | wrongEntry
deriving DecidableEq, Repr, Hashable

/-- What a phrase is built into. -/
inductive Node where
  | expression (e : Expression)
  | expressions (es : List Expression)
  /-- Keys with their values. -/
  | entries (entries : List (Option Expression × Expression))
  /-- The arguments of a call: the number of those without a name, and for each of the others whether
  it has one. -/
  | arguments (plain : Nat) (named : List Bool)
  /-- A comparison with something, and whether it asks for a member of it. -/
  | comparison (membership : Bool)
  /-- A phrase of which nothing matters. -/
  | phrase
deriving Repr

/-! ## Building -/

namespace Phrase

abbrev Find := Item Pattern Phrase
abbrev Finding := Found Token Node
abbrev Building := Built Node Misreading
abbrev Choice := Grammar.Alternative Pattern Token Phrase Node Misreading

mutual

/-- The nodes among what was found, in order. -/
def nodesOf : Finding → List Node
  | .node node => [node]
  | .several found => nodesIn found
  | .token _ | .nothing => []

def nodesIn : List Finding → List Node
  | [] => []
  | found :: rest => nodesOf found ++ nodesIn rest

end

/-- The expressions that a node stands for. -/
def expressionsOf : Node → List Expression
  | .expression e => [e]
  | .expressions es => es
  | _ => []

/-- The expressions among what was found, in order. -/
def expressionsIn (found : List Finding) : List Expression :=
  (nodesIn found).flatMap expressionsOf

/-- The first expression among what was found. -/
def firstIn (found : List Finding) : Expression :=
  (expressionsIn found).headD (.constant .none)

def ofExpression (e : Expression) : Building := .node (.expression e)

/-- Builds the node that was found first. -/
def same (found : List Finding) : Building :=
  .node ((nodesIn found).headD .phrase)

/-- Builds a phrase of which nothing matters. -/
def plain (_ : List Finding) : Building := .node .phrase

/-- Builds an expression of which only the form matters. -/
def form (form : Form) (_ : List Finding) : Building := ofExpression (.other form)

/-- Builds an expression out of the first one found. -/
def around (f : Expression → Expression) (found : List Finding) : Building :=
  ofExpression (f (firstIn found))

/-- Builds an expression out of all that were found. -/
def gather (f : List Expression → Expression) (found : List Finding) : Building :=
  ofExpression (f (expressionsIn found))

/-- Builds the entries of a table. -/
def gatherEntries (found : List Finding) : List (Option Expression × Expression) :=
  (nodesIn found).flatMap fun
    | .entries more => more
    | _ => []

/-- The number of arguments without a name among some nodes, and those with one. -/
def argumentsIn (nodes : List Node) : Nat × List Bool :=
  nodes.foldl (fun (plain, named) node =>
    match node with
    | .expression _ => (plain + 1, named)
    | .arguments more others => (plain + more, named ++ others)
    | _ => (plain, named)) (0, [])

def gatherArguments (found : List Finding) : Building :=
  let (plain, named) := argumentsIn (nodesIn found)
  .node (.arguments plain named)

/-- The letters of the first name that was found. -/
def nameIn : List Finding → List Char
  | .token ⟨.name letters, _, _⟩ :: _ => letters
  | _ :: rest => nameIn rest
  | [] => []

/-- How expressions are read here: how faults are reported, and how texts in quotes are read, of which
each is given with its line. -/
structure Context where
  report : Misreading → Misreading
  readTexts : List (Quotation × Nat) → Except Misreading Expression

/-- The texts in quotes among what was found. -/
def textsIn (found : List Finding) : List (Quotation × Nat) :=
  found.flatMap fun
    | .several found => found.filterMap fun
      | .token ⟨.text quotation, line, _⟩ => some (quotation, line)
      | _ => none
    | _ => []

/-- The names of what were statements once and are functions now. -/
def statements : List String := ["print", "exec"]

/-- The name of a function that was a statement once. -/
def statement? (letters : List Char) : Option String :=
  statements.find? (·.toList = letters)

/-! ## Items -/

def sign (s : String) : Find := .token (.sign s)
def word (s : String) : Find := .token (.word s)
def name : Find := .token .name
def comma : Find := sign ","
def openBrace : Find := sign "\x7b"
def closeBrace : Find := sign "\x7d"
def phrase (p : Phrase) : Find := .rule p
def oneOf (items : List Find) : Find := .choice (items.map ([·]))
def inOrder (items : List Find) : Find := .choice [items]
def any (item : Find) : Find := .many 0 item
def several (item : Find) : Find := .many 1 item
def commas (item : Find) : Find := .separated comma item

/-- Items that are found if they come one after the other. -/
def choice (items : List Find) (build : List Finding → Building) : Choice := { items, build }

/-- Phrases that describe what is wrong. -/
def diagnosis (p : Phrase) : Choice := { items := [phrase p], build := same, diagnostic := true }

/-- A phrase that is another one. -/
def just (p : Phrase) : Choice := choice [phrase p] same

/-- An operation: the phrase itself, one of some signs and a tighter phrase, or that alone. -/
def operation (self tighter : Phrase) (signs : List String) : List Choice :=
  signs.map (fun s => choice [phrase self, sign s, phrase tighter] (form .operation)) ++
    [just tighter]

/-! ## The phrases -/

/-- Builds a comparison, of which the first part tells whether a member is asked for. -/
def buildComparison (found : List Finding) : Building :=
  match nodesIn found with
  | .expression left :: .comparison membership :: _ => ofExpression (.comparison left membership)
  | _ => .refused

/-- Builds a constant out of the number that was found. -/
def buildNumber (context : Context) : List Finding → Building
  | [.token ⟨.number text, _, _⟩] =>
    match Numeral.ofText text with
    | .ok number => ofExpression (.constant (.number number))
    | .error fault => .fault (context.report fault)
  | _ => .refused

/-- Builds an expression out of texts in quotes. -/
def buildTexts (context : Context) (found : List Finding) : Building :=
  match context.readTexts (textsIn found) with
  | .ok e => ofExpression e
  | .error fault => .fault fault

/-- The alternatives of the phrases of expressions. -/
def usual (context : Context) : Phrase → List Choice
  | .whole => [choice [phrase .expressions, any (.token .lineEnd), .token .done] same]
  | .inner => [just .starExpressions]
  | .expressions => [
      choice [phrase .expression, several (inOrder [comma, phrase .expression]), .optional comma]
        (gather .tuple),
      choice [phrase .expression, comma] (gather .tuple),
      just .expression]
  | .expression => [
      diagnosis .wrongExpression,
      diagnosis .wrongStatement,
      choice [phrase .disjunction, word "if", phrase .disjunction, word "else", phrase .expression]
        (form .conditional),
      just .disjunction,
      just .lambda]
  | .yielding => [
      choice [word "yield", word "from", phrase .expression] (form .yielding),
      choice [word "yield", .optional (phrase .starExpressions)] (form .yielding)]
  | .starExpressions => [
      choice [phrase .starExpression, several (inOrder [comma, phrase .starExpression]),
        .optional comma] (gather .tuple),
      choice [phrase .starExpression, comma] (gather .tuple),
      just .starExpression]
  | .starExpression => [
      choice [sign "*", phrase .bitOr] (around .starred),
      just .expression]
  | .items => [choice [commas (phrase .item), .optional comma] fun found =>
      .node (.expressions (expressionsIn found))]
  | .item => [
      choice [sign "*", phrase .bitOr] (around .starred),
      just .namedExpression]
  | .naming => [choice [name, sign ":=", .commit, phrase .expression] (form .naming)]
  | .namedExpression => [
      just .naming,
      diagnosis .wrongNaming,
      choice [phrase .expression, .notAhead (sign ":=")] same]
  | .disjunction => [
      choice [phrase .conjunction, several (inOrder [word "or", phrase .conjunction])]
        (form .operation),
      just .conjunction]
  | .conjunction => [
      choice [phrase .inversion, several (inOrder [word "and", phrase .inversion])]
        (form .operation),
      just .inversion]
  | .inversion => [
      choice [word "not", phrase .inversion] (form .operation),
      just .comparison]
  | .comparison => [
      choice [phrase .bitOr, several (phrase .comparisonPart)] buildComparison,
      just .bitOr]
  | .comparisonPart =>
    let part (membership : Bool) (items : List Find) : Choice :=
      choice (items ++ [phrase .bitOr]) fun _ => .node (.comparison membership)
    ["==", "!=", "<=", "<", ">=", ">"].map (fun s => part false [sign s]) ++
      [part false [word "not", word "in"], part true [word "in"],
        part false [word "is", word "not"], part false [word "is"]]
  | .bitOr => operation .bitOr .bitXor ["|"]
  | .bitXor => operation .bitXor .bitAnd ["^"]
  | .bitAnd => operation .bitAnd .shift ["&"]
  | .shift => operation .shift .sum ["<<", ">>"]
  | .sum =>
    let build (found : List Finding) : Building :=
      match expressionsIn found with
      | [left, right] => ofExpression (.sum left right)
      | _ => .refused
    [choice [phrase .sum, sign "+", phrase .term] build,
      choice [phrase .sum, sign "-", phrase .term] build,
      just .term]
  | .term => operation .term .factor ["*", "/", "//", "%", "@"]
  | .factor => [
      choice [sign "+", phrase .factor] (around .signed),
      choice [sign "-", phrase .factor] (around .signed),
      choice [sign "~", phrase .factor] (form .operation),
      just .power]
  | .power => [
      choice [phrase .awaiting, sign "**", phrase .factor] (form .operation),
      just .awaiting]
  | .awaiting => [
      choice [word "await", phrase .primary] (form .awaiting),
      just .primary]
  | .primary => [
      choice [phrase .primary, sign ".", name] (form .attribute),
      choice [phrase .primary, phrase .generator] (around (.call · false)),
      choice [phrase .primary, sign "(", .optional (phrase .arguments), sign ")"] fun found =>
        ofExpression (.call (firstIn found) ((nodesIn found).length = 1)),
      choice [phrase .primary, sign "[", phrase .slices, sign "]"] (form .subscript),
      just .atom]
  | .slices => [
      choice [phrase .slice, .notAhead comma] plain,
      choice [commas (oneOf [phrase .slice, phrase .starredArgument]), .optional comma] plain]
  | .slice => [
      choice [.optional (phrase .expression), sign ":", .optional (phrase .expression),
        .optional (inOrder [sign ":", .optional (phrase .expression)])] plain,
      just .namedExpression]
  | .atom => [
      choice [name] fun found => ofExpression (.name (nameIn found)),
      choice [word "True"] fun _ => ofExpression (.constant .true),
      choice [word "False"] fun _ => ofExpression (.constant .false),
      choice [word "None"] fun _ => ofExpression (.constant .none),
      choice [.ahead (.token .text), phrase .texts] same,
      choice [.token .number] (buildNumber context),
      choice [.ahead (sign "("), oneOf [phrase .tuple, phrase .group, phrase .generator]] same,
      choice [.ahead (sign "["), oneOf [phrase .list, phrase .listComprehension]] same,
      choice [.ahead (openBrace), oneOf [phrase .table, phrase .set, phrase .tableComprehension,
        phrase .setComprehension]] same,
      choice [sign "..."] fun _ => ofExpression (.constant .ellipsis)]
  | .group => [
      choice [sign "(", oneOf [phrase .yielding, phrase .namedExpression], sign ")"] same,
      diagnosis .wrongGroup]
  | .texts => [choice [several (.token .text)] (buildTexts context)]
  | .list => [choice [sign "[", .optional (phrase .items), sign "]"] (gather .list)]
  | .tuple => [choice [sign "(",
      .optional (inOrder [phrase .item, comma, .optional (phrase .items)]), sign ")"]
      (gather .tuple)]
  | .set => [choice [openBrace, phrase .items, closeBrace] (gather .set)]
  | .table => [
      choice [openBrace, .optional (phrase .entries), closeBrace] fun found =>
        ofExpression (.table (gatherEntries found)),
      choice [openBrace, phrase .wrongEntries, closeBrace] same]
  | .entries => [choice [commas (phrase .entry), .optional comma] fun found =>
      .node (.entries (gatherEntries found))]
  | .entry => [
      choice [sign "**", phrase .bitOr] fun found => .node (.entries [(none, firstIn found)]),
      just .pair]
  | .pair => [choice [phrase .expression, sign ":", phrase .expression] fun found =>
      match expressionsIn found with
      | [key, value] => .node (.entries [(some key, value)])
      | _ => .refused]
  | .lambda => [choice [word "lambda", .optional (phrase .lambdaParameters), sign ":",
      phrase .expression] (form .lambda)]
  | .lambdaParameters => [diagnosis .wrongParameters, just .parameters]
  | .parameters => [
      choice [phrase .slashNoDefault, any (phrase .parameterNoDefault),
        any (phrase .parameterWithDefault), .optional (phrase .starEtc)] plain,
      choice [phrase .slashWithDefault, any (phrase .parameterWithDefault),
        .optional (phrase .starEtc)] plain,
      choice [several (phrase .parameterNoDefault), any (phrase .parameterWithDefault),
        .optional (phrase .starEtc)] plain,
      choice [several (phrase .parameterWithDefault), .optional (phrase .starEtc)] plain,
      just .starEtc]
  | .slashNoDefault => [
      choice [several (phrase .parameterNoDefault), sign "/", comma] plain,
      choice [several (phrase .parameterNoDefault), sign "/", .ahead (sign ":")] plain]
  | .slashWithDefault => [
      choice [any (phrase .parameterNoDefault), several (phrase .parameterWithDefault), sign "/",
        comma] plain,
      choice [any (phrase .parameterNoDefault), several (phrase .parameterWithDefault), sign "/",
        .ahead (sign ":")] plain]
  | .starEtc => [
      diagnosis .wrongStarEtc,
      choice [sign "*", phrase .parameterNoDefault, any (phrase .parameterMaybeDefault),
        .optional (phrase .doubleStar)] plain,
      choice [sign "*", comma, several (phrase .parameterMaybeDefault),
        .optional (phrase .doubleStar)] plain,
      just .doubleStar]
  | .doubleStar => [
      diagnosis .wrongDoubleStar,
      choice [sign "**", phrase .parameterNoDefault] plain]
  | .parameterNoDefault => [
      choice [phrase .parameter, comma] plain,
      choice [phrase .parameter, .ahead (sign ":")] plain]
  | .parameterWithDefault => [
      choice [phrase .parameter, phrase .default, comma] plain,
      choice [phrase .parameter, phrase .default, .ahead (sign ":")] plain]
  | .parameterMaybeDefault => [
      choice [phrase .parameter, .optional (phrase .default), comma] plain,
      choice [phrase .parameter, .optional (phrase .default), .ahead (sign ":")] plain]
  | .parameter => [choice [name] plain]
  | .default => [choice [sign "=", phrase .expression] plain, diagnosis .wrongDefault]
  | .forClauses => [choice [several (phrase .forClause)] plain]
  | .forClause =>
    let clause : List Find := [word "for", phrase .targets, word "in", .commit,
      phrase .disjunction, any (inOrder [word "if", phrase .disjunction])]
    [choice (word "async" :: clause) plain, choice clause plain, diagnosis .wrongTarget]
  | .listComprehension => [
      choice [sign "[", phrase .namedExpression, phrase .forClauses, sign "]"]
        (form .listComprehension),
      diagnosis .wrongComprehension]
  | .setComprehension => [
      choice [openBrace, phrase .namedExpression, phrase .forClauses, closeBrace]
        (form .setComprehension),
      diagnosis .wrongComprehension]
  | .generator => [
      choice [sign "(",
        .choice [[phrase .naming], [phrase .expression, .notAhead (sign ":=")]],
        phrase .forClauses, sign ")"] (form .generator),
      diagnosis .wrongComprehension]
  | .tableComprehension => [
      choice [openBrace, phrase .pair, phrase .forClauses, closeBrace] (form .tableComprehension),
      diagnosis .wrongTableComprehension]
  | .arguments => [
      choice [phrase .args, .optional comma, .ahead (sign ")")] same,
      diagnosis .wrongArguments]
  | .args =>
    let plain : Find := .choice [[phrase .starredArgument],
      [.choice [[phrase .naming], [phrase .expression, .notAhead (sign ":=")]],
        .notAhead (sign "=")]]
    [choice [commas plain, .optional (inOrder [comma, phrase .keywords])] gatherArguments,
      just .keywords]
  | .keywords => [
      choice [commas (phrase .keywordOrStarred), comma, commas (phrase .keywordOrDoubleStarred)]
        gatherArguments,
      choice [commas (phrase .keywordOrStarred)] gatherArguments,
      choice [commas (phrase .keywordOrDoubleStarred)] gatherArguments]
  | .starredArgument => [
      choice [sign "*", phrase .expression] (around .starred),
      choice [sign "*"] fun _ => .fault (context.report .bareStar)]
  | .keywordOrStarred => [
      diagnosis .wrongKeyword,
      choice [name, sign "=", phrase .expression] fun _ => .node (.arguments 0 [true]),
      just .starredArgument]
  | .keywordOrDoubleStarred => [
      diagnosis .wrongKeyword,
      choice [name, sign "=", phrase .expression] fun _ => .node (.arguments 0 [true]),
      choice [sign "**", phrase .expression] fun _ => .node (.arguments 0 [false])]
  | .targets => [
      choice [phrase .target, .notAhead comma] plain,
      choice [phrase .target, any (inOrder [comma, phrase .target]), .optional comma] plain]
  | .targetsInList => [choice [commas (phrase .target), .optional comma] plain]
  | .targetsInTuple => [
      choice [phrase .target, several (inOrder [comma, phrase .target]), .optional comma] plain,
      choice [phrase .target, comma] plain]
  | .target => [
      choice [sign "*", .notAhead (sign "*"), phrase .target] plain,
      just .targetAtom]
  | .targetAtom => [
      choice [phrase .targetPrimary, sign ".", name, .notAhead (phrase .targetAhead)] plain,
      choice [phrase .targetPrimary, sign "[", phrase .slices, sign "]",
        .notAhead (phrase .targetAhead)] plain,
      just .starAtom]
  | .starAtom => [
      choice [name] plain,
      choice [sign "(", phrase .targetAtom, sign ")"] plain,
      choice [sign "(", .optional (phrase .targetsInTuple), sign ")"] plain,
      choice [sign "[", .optional (phrase .targetsInList), sign "]"] plain]
  | .targetPrimary =>
    let more : Find := .ahead (phrase .targetAhead)
    [choice [phrase .targetPrimary, sign ".", name, more] plain,
      choice [phrase .targetPrimary, sign "[", phrase .slices, sign "]", more] plain,
      choice [phrase .targetPrimary, phrase .generator, more] plain,
      choice [phrase .targetPrimary, sign "(", .optional (phrase .arguments), sign ")", more]
        plain,
      choice [phrase .atom, more] plain]
  | .targetAhead => ["(", "[", "."].map fun s => choice [sign s] plain
  | .expressionQuietly => [
      choice [phrase .disjunction, word "if", phrase .disjunction, word "else", phrase .expression]
        (form .conditional),
      just .disjunction,
      just .lambda]
  | _ => []

/-! ## What is wrong -/

/-- Builds a fault. -/
def fault (context : Context) (f : Misreading) (_ : List Finding) : Building :=
  .fault (context.report f)

/-- Builds the fault of two expressions without a sign between them. Outside of brackets they may be
two lines that stand on one. -/
def buildMissingComma (context : Context) (found : List Finding) : Building :=
  let isStatement := match firstIn found with
    | .name letters => (statement? letters).isSome
    | _ => false
  let nested := match found.getLast? with
    | some (.token token) => token.depth ≠ 0
    | _ => false
  if isStatement || !nested then .refused else .fault (context.report .missingComma)

/-- Builds the fault of arguments without a name after others. -/
def buildLateArgument (context : Context) (found : List Finding) : Building :=
  match nodesIn found with
  | .arguments _ named :: _ =>
    .fault (context.report (if named.all id then .afterNamed else .afterUnpacking))
  | _ => .refused

/-- Builds the fault of a loop over more than one argument. A single one may be looped over. -/
def buildLoopArgument (context : Context) (found : List Finding) : Building :=
  match nodesIn found with
  | .arguments plain _ :: _ =>
    if plain ≤ 1 then .refused else .fault (context.report .bareGenerator)
  | _ => .refused

/-- The alternatives of the phrases that describe what is wrong. -/
def wrong (context : Context) : Phrase → List Choice
  | .wrongExpression => [
      choice [.notAhead (.choice [[name, .token .text], [.token .softName]]),
        phrase .disjunction, phrase .expressionQuietly, .lastToken] (buildMissingComma context),
      choice [phrase .disjunction, word "if", phrase .disjunction,
        .notAhead (oneOf [word "else", sign ":"])] (fault context .missingElse)]
  | .wrongStatement => [
      choice [name, .notAhead (sign "("), phrase .starExpressions] fun found =>
        match statement? (nameIn found) with
        | some name => .fault (context.report (.missingBrackets name))
        | none => .refused]
  | .wrongNaming => [
      choice [phrase .expression, sign ":=", phrase .expression] fun found =>
        .fault (context.report (.badNaming (firstIn found).form)),
      choice [name, sign "=", phrase .bitOr, .notAhead (oneOf [sign "=", sign ":="])]
        (fault context .assignmentForComparison),
      choice [.notAhead (oneOf [phrase .list, phrase .tuple, phrase .generator, word "True",
          word "None", word "False"]),
        phrase .bitOr, sign "=", phrase .bitOr, .notAhead (oneOf [sign "=", sign ":="])]
        fun found => .fault (context.report (.assignmentHere (firstIn found).form))]
  | .wrongArguments =>
    let plain : Find := .choice [[phrase .starredArgument],
      [.choice [[phrase .naming], [phrase .expression, .notAhead (sign ":=")]],
        .notAhead (sign "=")]]
    [choice [.choice [[commas plain, comma, phrase .keywords], [phrase .keywords]], comma,
        commas (inOrder [phrase .starredArgument, .notAhead (sign "=")])]
        (fault context .unpackingOrder),
      choice [phrase .expression, phrase .forClauses, comma,
        .optional (.choice [[phrase .args], [phrase .expression, phrase .forClauses]])]
        (fault context .bareGenerator),
      choice [name, sign "=", phrase .expression, phrase .forClauses]
        (fault context .assignmentForComparison),
      choice [phrase .args, phrase .forClauses] (buildLoopArgument context),
      choice [phrase .args, comma, phrase .expression, phrase .forClauses]
        (fault context .bareGenerator),
      choice [phrase .args, comma, phrase .args] (buildLateArgument context)]
  | .wrongKeyword =>
    [("True", Form.true), ("False", Form.false), ("None", Form.none)].map (fun (w, form) =>
      choice [word w, sign "="] (fault context (.assignment form))) ++
    [choice [name, sign "=", phrase .expression, phrase .forClauses]
        (fault context .assignmentForComparison),
      choice [.notAhead (inOrder [name, sign "="]), phrase .expression, sign "="]
        (fault context .assignmentInCall)]
  | .wrongComprehension => [
      choice [oneOf [sign "[", sign "(", openBrace], phrase .starredArgument, phrase .forClauses]
        (fault context .starInComprehension),
      choice [oneOf [sign "[", openBrace], phrase .item, comma, phrase .items, phrase .forClauses]
        (fault context .bareTarget),
      choice [oneOf [sign "[", openBrace], phrase .item, comma, phrase .forClauses]
        (fault context .bareTarget)]
  | .wrongTableComprehension => [
      choice [openBrace, sign "**", phrase .bitOr, phrase .forClauses, closeBrace]
        (fault context .tableInComprehension)]
  | .wrongGroup => [
      choice [sign "(", phrase .starredArgument, sign ")"] (fault context .starHere),
      choice [sign "(", sign "**", phrase .expression, sign ")"] (fault context .doubleStarHere)]
  | .wrongParameters =>
    let slash : Find := oneOf [phrase .slashNoDefault, phrase .slashWithDefault]
    let wrong (items : List Find) (f : ParameterFault) : Choice :=
      choice items (fault context (.parameters f))
    [wrong [sign "/", comma] .nothingBeforeSlash,
      wrong [slash, any (phrase .parameterMaybeDefault), sign "/"] .slashTwice,
      wrong [any (phrase .parameterNoDefault), phrase .defaultsFirst,
        phrase .parameterNoDefault] .defaultFirst,
      wrong [any (phrase .parameterNoDefault), sign "(", commas (phrase .parameter),
        .optional comma, sign ")"] .bracketed,
      wrong [.optional slash, any (phrase .parameterMaybeDefault), sign "*",
        oneOf [comma, phrase .parameterNoDefault], any (phrase .parameterMaybeDefault), sign "/"]
        .slashAfterStar,
      wrong [several (phrase .parameterMaybeDefault), sign "/", sign "*"] .noCommaBeforeStar]
  | .defaultsFirst => [
      just .slashWithDefault,
      choice [several (phrase .parameterWithDefault)] plain]
  | .wrongStarEtc =>
    let wrong (items : List Find) (f : ParameterFault) : Choice :=
      choice items (fault context (.parameters f))
    [wrong [sign "*", .choice [[sign ":"], [comma, oneOf [sign ":", sign "**"]]]] .bareStar,
      wrong [sign "*", phrase .parameter, sign "="] .starWithDefault,
      wrong [sign "*", oneOf [phrase .parameterNoDefault, comma],
        any (phrase .parameterMaybeDefault), sign "*",
        oneOf [phrase .parameterNoDefault, comma]] .starTwice]
  | .wrongDoubleStar =>
    let wrong (items : List Find) (f : ParameterFault) : Choice :=
      choice items (fault context (.parameters f))
    [wrong [sign "**", phrase .parameter, sign "="] .doubleStarWithDefault,
      wrong [sign "**", phrase .parameter, comma, phrase .parameter] .afterDoubleStar,
      wrong [sign "**", phrase .parameter, comma, oneOf [sign "*", sign "**", sign "/"]]
        .afterDoubleStar]
  | .wrongDefault => [
      choice [sign "=", .ahead (oneOf [sign ")", comma])]
        (fault context (.parameters .missingDefault))]
  | .wrongTarget => [
      choice [.optional (word "async"), word "for", phrase .starExpressions] fun found =>
        match (firstIn found).wrongTarget? with
        | some e => .fault (context.report (.assignment e.form))
        | none => .refused]
  | .wrongEntries => [
      choice [commas (phrase .entry), comma, phrase .wrongEntry] plain,
      choice [phrase .expression, sign ":", sign "*", phrase .bitOr] (fault context .starredValue),
      choice [phrase .expression, sign ":", .ahead (oneOf [closeBrace, comma])]
        (fault context .keyWithoutValue)]
  | .wrongEntry => [
      choice [phrase .expression, .notAhead (sign ":")] (fault context .keyWithoutColon),
      choice [phrase .expression, sign ":", sign "*", phrase .bitOr] (fault context .starredValue),
      choice [phrase .expression, sign ":", .ahead (oneOf [closeBrace, comma])]
        (fault context .keyWithoutValue)]
  | _ => []

/-! ## The grammar -/

/-- The phrases that are looked for at the same place more than once. -/
def keptPhrases : List Phrase :=
  [.expression, .starExpression, .disjunction, .conjunction, .inversion, .factor, .awaiting, .texts,
    .arguments, .target, .targetAtom, .wrongNaming]

/-- The phrases that may begin with themselves. -/
def growingPhrases : List Phrase :=
  [.bitOr, .bitXor, .bitAnd, .shift, .sum, .term, .primary, .targetPrimary]

/-- The grammar of expressions. -/
def grammar (context : Context) : Grammar Pattern Token Phrase Node Misreading where
  rule p := {
    alternatives := usual context p ++ wrong context p
    kept := keptPhrases.contains p
    grows := growingPhrases.contains p
    quiet := p = .expressionQuietly }
  fits := Pattern.fits
  tooDeep := .tooDeep

end Phrase

end FilterQuery.Literal
