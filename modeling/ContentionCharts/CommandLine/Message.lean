import ContentionCharts.CommandLine.Arguments
import ContentionCharts.Text.ControlSequence

/-!
The texts of the command line: the usage line, the help, and what is said about a mistake.
-/
namespace ContentionCharts.CommandLine

def usageLine : String := "Usage: mutex-plots <benchmark_results.txt>\n"

def helpText : String :=
  "Render comparison charts from a simple_mutex_bench report\n\n" ++
  "Usage: mutex-plots [REPORT]\n\n" ++
  "Arguments:\n  [REPORT]  Text report printed by simple_mutex_bench\n\n" ++
  "Options:\n  -h, --help  Print help\n"

def tryHelp : String := "For more information, try '--help'.\n"

def Usage.text (usage : Usage) : String :=
  "Usage: mutex-plots" ++ (if usage.helpNamed then " --help" else "") ++
    (if usage.reportNamed then " <REPORT>" else " [REPORT]") ++ "\n\n"

def plainUsage : Usage := ⟨false, false⟩

/-- An argument as it is quoted in a message: what a terminal would obey is left out. -/
def cited (argument : String) : String :=
  "'" ++ Text.withoutControls argument ++ "'"

def unexpected (argument : String) : String :=
  "error: unexpected argument " ++ cited argument ++ " found\n\n"

def ArgumentError.message : ArgumentError → String
  | emptyReport =>
    "error: a value is required for '[REPORT]' but none was supplied\n\n" ++ tryHelp
  | unknownOption option usage =>
    unexpected option ++
      "  tip: to pass " ++ cited option ++ " as a value, use '-- " ++
      Text.withoutControls option ++ "'\n\n" ++ usage.text ++ tryHelp
  | misspeltHelp option usage =>
    unexpected option ++ "  tip: a similar argument exists: '--help'\n\n" ++
      usage.text ++ tryHelp
  | helpWithValue value =>
    "error: unexpected value " ++ cited value ++
      " for '--help' found; no more were expected\n\n" ++ Usage.text ⟨true, false⟩ ++ tryHelp
  | surplus argument => unexpected argument ++ plainUsage.text ++ tryHelp

end ContentionCharts.CommandLine
