import ContentionCharts.Plotting

/-!
Several tasks one after the other on the same files. Each task answers for itself: one that fails
leaves the files as it left them, and the next one goes on from there.
-/
namespace ContentionCharts

open ContentionCharts.Report

inductive Task where
  | one (kind : ChartKind) (explicit : Option Path)
  | every
  deriving DecidableEq, Repr

structure Step where
  findings : Findings
  task : Task

namespace Presentation

def carryOut (presentation : Presentation) (step : Step) : Script (Except Failure (List Path)) :=
  match step.task with
  | .every => presentation.renderAll step.findings
  | .one kind explicit => do
    match ← presentation.render step.findings kind explicit with
    | .error failure => return .error failure
    | .ok path => return .ok path.toList

def carryOutAll (presentation : Presentation) (storage : Storage σ) :
    List Step → σ → List (Outcome σ (Except Failure (List Path)))
  | [], _ => []
  | step :: steps, files =>
    let outcome := (presentation.carryOut step).run storage files
    outcome :: presentation.carryOutAll storage steps outcome.files

end Presentation

end ContentionCharts
