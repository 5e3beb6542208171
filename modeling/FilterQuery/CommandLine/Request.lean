/-
What a command line asks for.

Taking a command line apart is left to a reader, which is not part of this library. The program is
told what is asked for: the options before the command as they were given, and what comes of the
words from the command on. The latter may be a misreading although the former were read, and the
program has acted on the options by then.

What is relied on is that a reader understands the plain ways of calling `filter`: an option for the
format and one for the keyword, in either order, and the query string behind `--`, where it is taken
as it is (`Reader.Understands`).
-/
set_option autoImplicit false

namespace FilterQuery.CommandLine

/-- How answers are written. -/
inductive Format where
  | table | json
deriving DecidableEq, Repr

namespace Format

def all : List Format := [.table, .json]

def name : Format → String
  | .table => "table"
  | .json => "json"

def ofName? (name : String) : Option Format :=
  all.find? (·.name = name)

end Format

/-- How the program is to work, as it was said before the command. -/
structure Choices where
  output : Format := .json
  /-- Whether JSON is asked for by an option of its own. -/
  json : Bool := false
  verbosity : Nat := 0
  keyword : Option String := none
deriving DecidableEq, Repr

/-- How answers are to be written. The option of its own decides. -/
def Choices.format (choices : Choices) : Format :=
  if choices.json then .json else choices.output

/-- A command and its words. -/
inductive Call where
  /-- A description of the command is asked for. -/
  | help
  | filter (query : String)
  | inclusion (relations : List String)
deriving DecidableEq, Repr

/-- What a command line asks for. -/
inductive Request (Misreading : Type) where
  /-- A description of the program. -/
  | help
  | version
  /-- No command is given. -/
  | bare
  | call (choices : Choices) (call : Except Misreading Call)

/-- A reader of command lines. -/
abbrev Reader (Misreading : Type) := List String → Except Misreading (Request Misreading)

/-! ## Plain calls -/

/-- The words that ask for a format, and what they choose. -/
def Format.spellings : Format → List (List String × Choices)
  | .json =>
    [([], {}), (["--json"], { json := true }), (["--output", "json"], {}),
      (["--output=json"], {})]
  | .table => [(["--output", "table"], { output := .table }),
      (["--output=table"], { output := .table })]

/-- The command lines that ask for the filters of a query string, in a format and under a keyword,
and what they choose. The keyword may be given before the format or after it. -/
def calls (format : Format) (keyword : Option String) (query : String) :
    List (List String × Choices) :=
  let key := keyword.toList.map ("--prefix=" ++ ·)
  format.spellings.flatMap fun (options, choices) =>
    [(options ++ key ++ ["filter", "--", query], { choices with keyword }),
      (key ++ options ++ ["filter", "--", query], { choices with keyword })]

/-- The reader understands the plain calls of `filter`. -/
def Reader.Understands {Misreading : Type} (reader : Reader Misreading) : Prop :=
  ∀ format keyword query, ∀ call ∈ calls format keyword query,
    reader call.1 = .ok (.call call.2 (.ok (.filter query)))

end FilterQuery.CommandLine
