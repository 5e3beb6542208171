/-
The host that the program is run on: options are texts or bytes, the words of a command line are
read one after the other, and answers are printed for a terminal without colours.
-/
import FilterQuery.CommandLine
import FilterQuery.CommandLine.Words
import FilterQuery.Console.Terminal
import FilterQuery.Settings.Given

set_option autoImplicit false

namespace FilterQuery.CommandLine

/-- The host that the program is run on. -/
def Host.standard : Host Settings.Given UsageError Console.Markup.Fault where
  validator := Settings.Given.validator
  reader := readWords
  printer := Console.Terminal.printer
  room := callLimit

end FilterQuery.CommandLine
