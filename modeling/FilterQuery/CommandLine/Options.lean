/-
Taking the options out of a command line.

An option is a word that begins with a dash and is longer than it. A long option may have its value
after an equals sign or as the next word; short options may be written together after one dash. The
word `--` ends the options. Whether options may also come after other words is up to the command.

The result lists the options in the order given, and the words that are not options.
-/
import FilterQuery.CommandLine.Suggestion
import FilterQuery.CommandLine.Usage
import FilterQuery.Text.Pieces

set_option autoImplicit false

namespace FilterQuery.CommandLine

open FilterQuery.Text

/-- What an option is for. -/
inductive Role where
  | output | json | verbose | keyword | version | help
deriving DecidableEq, Repr

/-- An option: its names with their dashes, and whether it takes a value. -/
structure OptionSpec where
  role : Role
  names : List String
  takesValue : Bool := false

/-- An option as given. -/
structure Given where
  role : Role
  value : String := ""
deriving DecidableEq, Repr

/-- Options and other words, in order. -/
structure Scanned where
  options : List Given := []
  words : List String := []

namespace Options

/-! ## Looking options up -/

def find? (specs : List OptionSpec) (name : String) : Option OptionSpec :=
  specs.find? (·.names.contains name)

def isLong (name : String) : Bool := 2 < name.length

/-- The names of the long options. -/
def longNames (specs : List OptionSpec) : List String :=
  specs.flatMap fun spec => spec.names.filter isLong

/-! ## One word -/

/-- The short options written together after a dash. None of them takes a value. -/
def shortOptions (specs : List OptionSpec) (letters : List Char) :
    Except UsageError (List Given) :=
  letters.mapM fun letter =>
    let name := String.ofList ['-', letter]
    match find? specs name with
    | some spec => .ok { role := spec.role }
    | none => .error (.noSuchOption name [])

/-- A long option with the value written after it and the words that follow; the words left over
come with it. No option of this name is `none`. -/
def longOption? (specs : List OptionSpec) (name : String) (value : Option String)
    (rest : List String) : Option (Except UsageError (Given × List String)) :=
  match specs.find? (fun spec => spec.names.any fun n => n = name && isLong n) with
  | none => none
  | some spec => some <|
    match spec.takesValue, value, rest with
    | false, none, rest => .ok ({ role := spec.role }, rest)
    | false, some _, _ => .error (.optionTakesNoValue name)
    | true, some value, rest => .ok ({ role := spec.role, value }, rest)
    | true, none, value :: rest => .ok ({ role := spec.role, value }, rest)
    | true, none, [] => .error (.optionNeedsValue name)

/-- The name of an option and the value written after an equals sign. -/
def splitValue (word : String) : String × Option String :=
  if '=' ∈ word.toList then
    let (name, value) := cutFirst '=' word.toList
    (String.ofList name, some (String.ofList value))
  else (word, none)

/-- The options of one word that begins with a dash, and the words left over. -/
def ofWord (specs : List OptionSpec) (word : String) (rest : List String) :
    Except UsageError (List Given × List String) :=
  let (name, value) := splitValue word
  match longOption? specs name value rest with
  | some result => result.map fun (given, rest) => ([given], rest)
  | none =>
    if "--".toList.isPrefixOf word.toList then
      .error (.noSuchOption name (similar (longNames specs) name))
    else (shortOptions specs (word.toList.drop 1)).map fun given => (given, rest)

/-! ## All words -/

def isOption (word : String) : Bool :=
  word.toList.head? == some '-' && 1 < word.length

/-- Takes the options out of some words; `anywhere` says whether options may come after other words.
Each step uses up a word at least, so their number bounds the steps. -/
def scanSteps (specs : List OptionSpec) (anywhere : Bool) :
    (steps : Nat) → List String → Except UsageError Scanned
  | _, [] => .ok {}
  | 0, words => .ok { words }
  | steps + 1, word :: rest =>
    if word = "--" then .ok { words := rest }
    else if isOption word then do
      let (given, rest) ← ofWord specs word rest
      let scanned ← scanSteps specs anywhere steps rest
      return { scanned with options := given ++ scanned.options }
    else if anywhere then do
      let scanned ← scanSteps specs anywhere steps rest
      return { scanned with words := word :: scanned.words }
    else .ok { words := word :: rest }

/-- Takes the options out of some words. -/
def scan (specs : List OptionSpec) (anywhere : Bool) (words : List String) :
    Except UsageError Scanned :=
  scanSteps specs anywhere words.length words

end Options

end FilterQuery.CommandLine
