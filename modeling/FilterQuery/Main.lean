/-
The program `qsparse`: the words of the command line in, texts on the two streams and an exit code
out. What they are is decided in `FilterQuery.CommandLine`.
-/
import FilterQuery.CommandLine.Standard

set_option autoImplicit false

namespace FilterQuery.CommandLine

/-- The description of the program. -/
def description : String :=
  "Usage: qsparse [OPTIONS] COMMAND [ARGS]...\n\n" ++
  "  filter QUERYSTRING     show the predicate that the filters of a query string mean\n" ++
  "  include RELATIONS...   show the operation that selects relations\n\n" ++
  "  --output table|json    how to write the answer (default: json)\n" ++
  "  --json                 the same as --output json\n" ++
  "  -v                     tell more; twice, tell how each filter was read\n" ++
  "  --prefix TEXT          the word that filter keys begin with (default: filter)\n" ++
  "  --version              show the version\n" ++
  "  -h, --help             show this text\n"

end FilterQuery.CommandLine

/-- Runs the program. -/
def main (words : List String) : IO UInt32 := do
  match FilterQuery.CommandLine.Host.standard.run words with
  | .help =>
    (← IO.getStdout).putStr FilterQuery.CommandLine.description
    return 0
  | .printed texts =>
    (← IO.getStdout).putStr texts.out
    (← IO.getStderr).putStr texts.err
    return texts.exit.toUInt32
  | .misunderstood error => fail 2 error.message
  | .misused misuse => fail 1 misuse.message
  | .unwritten failure => fail 1 failure.message
  | .unprintable fault => fail 1 fault.message
where
  /-- Ends the program with a message and an exit code. -/
  fail (exit : UInt32) (message : String) : IO UInt32 := do
    (← IO.getStderr).putStr ("Error: " ++ message ++ "\n")
    return exit
