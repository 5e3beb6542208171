/-
Reading the words of a command line.

The order of the checks decides which of several mistakes is reported: options that do not exist,
then requests for help or the version in the order given, then the values of options, then the
command, and last the words given to the command, which the program hears of only when it has acted
on the options.
-/
import FilterQuery.CommandLine.Options
import FilterQuery.CommandLine.Request

set_option autoImplicit false

namespace FilterQuery.CommandLine

/-! ## Commands and options -/

/-- The commands. -/
inductive Command where
  | filter | inclusion
deriving DecidableEq, Repr

namespace Command

def all : List Command := [.filter, .inclusion]

def name : Command → String
  | .filter => "filter"
  | .inclusion => "include"

def ofName? (name : String) : Option Command :=
  all.find? (·.name = name)

/-- The name of the words that a command is given. -/
def argument : Command → String
  | .filter => "QUERYSTRING"
  | .inclusion => "RELATIONS..."

end Command

/-- The option for help, which every command has. -/
def helpOption : OptionSpec := { role := .help, names := ["-h", "--help"] }

/-- The options that come before the command. -/
def programOptions : List OptionSpec :=
  [{ role := .output, names := ["--output"], takesValue := true },
    { role := .json, names := ["--json"] },
    { role := .verbose, names := ["-v"] },
    { role := .keyword, names := ["--prefix"], takesValue := true },
    { role := .version, names := ["--version"] },
    helpOption]

/-! ## Before the command -/

/-- The first request for help or the version, if there is one. -/
def request? (options : List Given) : Option (Request UsageError) :=
  options.findSome? fun given =>
    match given.role with
    | .help => some .help
    | .version => some .version
    | _ => none

/-- The value of the last option of a role. -/
def lastValue? (role : Role) (options : List Given) : Option String :=
  ((options.filter (·.role = role)).getLast?).map (·.value)

/-- How the program is to work, by its options. -/
def choose (options : List Given) : Except UsageError Choices := do
  let output ← match lastValue? .output options with
    | none => pure Format.json
    | some value =>
      match Format.ofName? value with
      | some format => pure format
      | none => throw (.notAChoice "--output" value (Format.all.map (·.name)))
  return {
    output
    json := options.any (·.role = .json)
    verbosity := options.countP (·.role = .verbose)
    keyword := lastValue? .keyword options }

/-- The words before a command, understood: a request at once, or how to work and the words from the
command on. -/
def understand (words : List String) :
    Except UsageError (Request UsageError ⊕ (Choices × List String)) := do
  let scanned ← Options.scan programOptions false words
  match request? scanned.options with
  | some request => return .inl request
  | none => return .inr (← choose scanned.options, scanned.words)

/-! ## The command -/

/-- Reads the words given to a command. -/
def readCall (command : Command) (words : List String) : Except UsageError Call := do
  let scanned ← Options.scan [helpOption] true words
  if scanned.options.any (·.role = .help) then return .help
  match command, scanned.words with
  | command, [] => throw (.missingArgument command.argument)
  | .filter, [query] => return .filter query
  | .filter, _ :: extra => throw (.extraArguments extra)
  | .inclusion, relations => return .inclusion relations

/-- What comes of a word that names no command. A word that looks like an option is understood as
one first, which may give another error or a request. -/
def readUnknown (words : List String) (name : String) :
    Except UsageError (Request UsageError) := do
  match ← understand words with
  | .inl request => return request
  | .inr _ => throw (.noSuchCommand name (similar (Command.all.map (·.name)) name))

/-- Reads the words of a command line. -/
def readWords : Reader UsageError := fun words => do
  match ← understand words with
  | .inl request => return request
  | .inr (_, []) => return .bare
  | .inr (choices, name :: words) =>
    match Command.ofName? name with
    | none => readUnknown (name :: words) name
    | some command => return .call choices (readCall command words)

end FilterQuery.CommandLine
