import ContentionCharts.Chart.Design
import ContentionCharts.Report.Reading
import ContentionCharts.Script

/-!
From a report to its charts. Charts are drawn one after the other; the first one that cannot be
written ends the run, and what was drawn before it stays.
-/
namespace ContentionCharts

open ContentionCharts.Report

inductive Failure where
  | unreadable (path : Path) (error : ReadError)
  | unwritten (path : Path)
  deriving DecidableEq, Repr

def Failure.message : Failure → String
  | unreadable path error =>
    "Read benchmark report " ++ path.text ++ ": " ++ error.message
  | unwritten path => "Write " ++ path.text

namespace Presentation

def render (presentation : Presentation) (findings : Findings) (kind : ChartKind)
    (explicit : Option Path := none) : Script (Except Failure (Option Path)) :=
  match presentation.design findings kind explicit with
  | .error event => do
    Script.say [event]
    return .ok none
  | .ok chart => do
    if ← Script.drawChart chart then
      Script.tell ("Saved " ++ kind.noun ++ " to " ++ chart.path.text ++ "\n")
      return .ok (some chart.path)
    else return .error (.unwritten chart.path)

def renderEach (presentation : Presentation) (findings : Findings) :
    List ChartKind → Script (Except Failure (List Path))
  | [] => return .ok []
  | kind :: kinds => do
    match ← presentation.render findings kind with
    | .error failure => return .error failure
    | .ok path =>
      match ← presentation.renderEach findings kinds with
      | .error failure => return .error failure
      | .ok paths => return .ok (path.toList ++ paths)

def renderAll (presentation : Presentation) (findings : Findings) :
    Script (Except Failure (List Path)) :=
  presentation.renderEach findings ChartKind.all

def finishing (paths : List Path) : Event where
  level := .debug
  origin := .plotting
  message := "Wrote " ++ toString paths.length ++ " charts"

def plotReport (presentation : Presentation) (report : Path) :
    Script (Except Failure (List Path)) := do
  Script.tell ("Parsing results from " ++ report.text ++ "...\n")
  match ← Script.readFile report with
  | .error error => return .error (.unreadable report error)
  | .ok text =>
    let findings ← Script.report (presentation.wording.read text)
    match ← presentation.renderAll findings with
    | .error failure => return .error failure
    | .ok paths =>
      Script.say [finishing paths]
      Script.tell "\nAll plots generated successfully!\n"
      return .ok paths

end Presentation

end ContentionCharts
