import ContentionCharts.CommandLine.Message
import ContentionCharts.Plotting

/-!
The program behind the command line. Arguments are settled first, then how much is logged, then the
report is plotted with the default settings and wording; only plotting touches files.
-/
namespace ContentionCharts

open ContentionCharts.CommandLine

/-- The exit code, and what is said about it on the error stream. The report of an invalid log level
is worded by the reader of such levels and not kept here. -/
structure Ending where
  code : UInt8
  complaint : String := ""
  deriving DecidableEq, Repr

def verbosity? (level : Option String) : Option Verbosity :=
  Verbosity.ofText? (level.getD "warn")

/-- The parts of the program that log, each with a name that its origins begin with. -/
def scopes : List String := ["mutex_plots", "common", "simple_mutex", "simple_mutex_basic"]

def directives (verbosity : Verbosity) : List Directive :=
  scopes.map fun scope => ⟨scope, verbosity⟩

def plotting (report : String) : Script Ending := do
  match ← Presentation.plotReport {} ⟨report⟩ with
  | .ok _ => return { code := 0 }
  | .error failure => return { code := 1, complaint := "Error: " ++ failure.message ++ "\n" }

def program (arguments : List String) (level : Option String) : Script Ending :=
  match parse arguments with
  | .error error => return { code := 2, complaint := error.message }
  | .ok .help => do
    Script.tell helpText
    return { code := 0 }
  | .ok request =>
    match verbosity? level with
    | none => return { code := 1 }
    | some verbosity =>
      match request with
      | .plot report => (plotting report).admitting (Directive.admits (directives verbosity))
      | _ => do
        Script.tell usageLine
        return { code := 1 }

end ContentionCharts
