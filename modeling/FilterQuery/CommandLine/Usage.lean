/-
Usage errors: command lines that cannot be understood.
-/
import FilterQuery.Text.Quoted

set_option autoImplicit false

namespace FilterQuery.CommandLine

open FilterQuery.Text

/-- Why a command line cannot be understood. -/
inductive UsageError where
  | noSuchOption (name : String) (similar : List String)
  | noSuchCommand (name : String) (similar : List String)
  | optionTakesNoValue (name : String)
  | optionNeedsValue (name : String)
  /-- An option's value is not among the choices. -/
  | notAChoice (option value : String) (choices : List String)
  | missingArgument (name : String)
  | extraArguments (arguments : List String)
deriving DecidableEq, Repr

namespace UsageError

def inQuotes (s : String) : String := String.ofList (quoted s.toList)

/-- The question whether one of some names was meant. -/
def suggestion (names : List String) : String :=
  let names := (names.mergeSort (· ≤ ·)).map inQuotes
  match names with
  | [] => ""
  | [name] => " Did you mean " ++ name ++ "?"
  | names => " (Did you mean one of: " ++ String.intercalate ", " names ++ "?)"

/-- The wording of a usage error. -/
def message : UsageError → String
  | .noSuchOption name similar => "No such option " ++ inQuotes name ++ "." ++ suggestion similar
  | .noSuchCommand name similar => "No such command " ++ inQuotes name ++ "." ++ suggestion similar
  | .optionTakesNoValue name => "Option " ++ inQuotes name ++ " does not take a value."
  | .optionNeedsValue name => "Option " ++ inQuotes name ++ " requires an argument."
  | .notAChoice option value choices =>
    "Invalid value for " ++ inQuotes option ++ ": " ++ inQuotes value ++ " is not one of " ++
      String.intercalate ", " (choices.map inQuotes) ++ "."
  | .missingArgument name => "Missing argument '" ++ name ++ "'."
  | .extraArguments [argument] => "Got unexpected extra argument (" ++ argument ++ ")"
  | .extraArguments arguments =>
    "Got unexpected extra arguments (" ++ String.intercalate " " arguments ++ ")"

end UsageError

end FilterQuery.CommandLine
