/-
The command line.

`qsparse filter QUERYSTRING` shows the predicate that a query string means, and `qsparse include
RELATIONS...` the operation that selects relations. Both write JSON, or with `--output table` a
drawing; problems are written as a table then, to the error stream. The exit code is 0 for an answer,
1 for a problem with the query string and 2 for a command line that cannot be understood or a keyword
that filters cannot have.

The program runs on a host: it does not read the command line itself, nor validate options or lay
out what it prints, and the calls that it may nest are limited. Where there is no room for them, it
ends without an answer.
-/
import FilterQuery.CommandLine.Request
import FilterQuery.Include
import FilterQuery.Parse
import FilterQuery.Predicate.Drawing
import FilterQuery.Settings

set_option autoImplicit false

namespace FilterQuery

open Console (Document Printer Table)

/-- An outcome as data, by at most `room` calls in one another. -/
def Outcome.renderDatum (settings : Settings) (room : Nat) (o : Outcome) :
    Except Unwritable Datum := do
  let results ← match o.predicate with
    | none => .ok Datum.null
    | some p => p.renderDatum settings room
  return .record [("results", results), ("errors", .list (o.problems.map (·.toDatum)))]

namespace CommandLine

/-! ## What the program knows -/

def programName : String := "qsparse"

def version : String := "0.3.0"

/-! ## Hosts -/

/-- What the program is run on: a validator of options, a reader of command lines, a printer, and the
number of calls that may be nested. -/
structure Host (Value Misreading Fault : Type) where
  validator : Settings.Validator Value
  reader : Reader Misreading
  printer : Printer Fault
  room : Nat

/-- What is relied on of a host. The room is what the calls that are under way already leave. -/
structure Host.Lawful {Value Misreading Fault : Type} (host : Host Value Misreading Fault) :
    Prop where
  understands : host.reader.Understands
  prints : host.printer.Prints
  hundred_le : 100 ≤ host.room

/-! ## Answers -/

/-- Texts for the two streams, and the exit code. -/
structure Printed where
  exit : Nat := 0
  out : String := ""
  err : String := ""
deriving DecidableEq, Repr

/-- What a run of the program comes to. -/
inductive Answer (Misreading Fault : Type) where
  | misunderstood (error : Misreading)
  /-- A description of the program or of a command. -/
  | help
  | printed (texts : Printed)
  /-- A misuse on the way to the answer. Reading a query string commits none. -/
  | misused (misuse : Misuse)
  /-- An answer that could not be written. -/
  | unwritten (failure : Unwritable)
  /-- An answer that could not be printed. -/
  | unprintable (fault : Fault)
deriving DecidableEq

section

variable {Value Misreading Fault : Type}

/-- The answer that writes texts, if they can be printed. -/
def Answer.ofPrinted : Except Fault Printed → Answer Misreading Fault
  | .ok texts => .printed texts
  | .error fault => .unprintable fault

/-- The answer with notes before it on the error stream, if they can be printed. -/
def Answer.telling (notes : Except Fault (List String)) :
    Answer Misreading Fault → Answer Misreading Fault
  | .printed texts => .ofPrinted do
    return { texts with err := String.join (← notes) ++ texts.err }
  | answer => answer

/-- The table of some problems. -/
def problemTable (problems : List Problem) : Table where
  title := "Parsing errors"
  headings := ["Parameter", "Value", "Message"]
  rows := problems.map fun p => [p.key.getD "", shownValue p.value, p.message]
where
  /-- The value of a parameter in a table: the texts of a list with commas between them. -/
  shownValue : Datum → String
    | .list items => String.intercalate "," (items.map fun item => String.ofList item.plain)
    | other => String.ofList other.plain

/-- Prints a document on the first stream. -/
def display (printer : Printer Fault) (document : Document) : Answer Misreading Fault :=
  .ofPrinted do return { out := ← printer.print document }

/-- Reports problems as a table, on the error stream. -/
def report (printer : Printer Fault) (problems : List Problem) : Answer Misreading Fault :=
  .ofPrinted do return { exit := 1, err := ← printer.print (.table (problemTable problems)) }

/-- Writes data as one line of JSON; the exit code tells whether there are problems. -/
def writeJson (room : Nat) (ok : Bool) (data : Except Unwritable Datum) :
    Answer Misreading Fault :=
  match data >>= Json.write .all room with
  | .ok line => .printed { exit := if ok then 0 else 1, out := String.ofList line ++ "\n" }
  | .error failure => .unwritten failure

/-- The answer to `filter`. -/
def answerFilter (printer : Printer Fault) (room : Nat) (settings : Settings) (format : Format)
    (outcome : Outcome) : Answer Misreading Fault :=
  match format, outcome.problems, outcome.predicate with
  | .json, _, _ => writeJson room outcome.ok (outcome.renderDatum settings room)
  | .table, [], none => display printer (.tagged "No filters.")
  | .table, [], some p =>
    match p.drawing settings room with
    | .ok document => display printer document
    | .error failure => .unwritten failure
  | .table, problems, _ => report printer problems

/-- The line that shows a selection. -/
def selectionLine (s : Selection) : String :=
  Selection.name ++ ": " ++
    String.intercalate ", " (s.relations.map fun relation => String.ofList relation.plain)

/-- The answer to `include`. -/
def answerInclude (printer : Printer Fault) (room : Nat) (format : Format)
    (inclusion : Inclusion) : Answer Misreading Fault :=
  match format, inclusion.problems with
  | .json, _ => writeJson room inclusion.ok (.ok inclusion.toDatum)
  | .table, [] => .ofPrinted do
    let lines ← inclusion.selections.mapM fun s => printer.print (.tagged (selectionLine s))
    return { out := String.join lines }
  | .table, problems => report printer problems

/-- The answer to a keyword that filters cannot have. -/
def refuseKeyword (printer : Printer Fault) (keyword : String) : Answer Misreading Fault :=
  .ofPrinted do
    let refusal ← printer.print (.line ("Error: Invalid --prefix: " ++ keyword))
    let hint ← printer.print (.line "Hint: Use a plain word such as 'filter' or 'where'.")
    return { exit := 2, err := refusal ++ hint }

/-! ## Running -/

namespace Host

variable (host : Host Value Misreading Fault)

/-- The settings, with another keyword if one is given. -/
def settingsFor (keyword : Option String) : Except (List Settings.Flaw) Settings :=
  Settings.ofOptions host.validator
    (keyword.toList.map fun k => (Settings.Name.keyword.text, host.validator.ofText k))

/-- The answer to `filter` for a query string; the notes on its course are told on request. -/
def runFilter (settings : Settings) (choices : Choices) (query : String) :
    Answer Misreading Fault :=
  match parse settings query with
  | .ok (outcome, notes) =>
    let told := if 2 ≤ choices.verbosity then notes else []
    (answerFilter host.printer host.room settings choices.format outcome).telling
      (told.mapM fun note => host.printer.print (.note note.text))
  | .error misuse => .misused misuse

/-- Carries a call out. -/
def perform (settings : Settings) (choices : Choices) : Call → Answer Misreading Fault
  | .help => .help
  | .filter query => host.runFilter settings choices query
  | .inclusion relations =>
    answerInclude host.printer host.room choices.format (.ofDatum (.texts relations))

/-- Runs the program on the words of a command line. The keyword is settled before it matters what
is called. -/
def run (words : List String) : Answer Misreading Fault :=
  match host.reader words with
  | .error error => .misunderstood error
  | .ok .help | .ok .bare => .help
  | .ok .version => .printed { out := programName ++ ", version " ++ version ++ "\n" }
  | .ok (.call choices call) =>
    match host.settingsFor choices.keyword with
    | .error _ => refuseKeyword host.printer (choices.keyword.getD "")
    | .ok settings =>
      match call with
      | .error error => .misunderstood error
      | .ok call => host.perform settings choices call

end Host

end

end CommandLine

end FilterQuery
