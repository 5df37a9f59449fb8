import ContentionCharts.Table.Line

/-!
The phrases by which a benchmark report is recognised, and the tables that follow from them. A
report compares two mutexes: the candidate, and the one that serves as reference.
-/
namespace ContentionCharts.Report

open ContentionCharts.Table

inductive Contender where
  | candidate | reference
  deriving DecidableEq, Repr

namespace Contender

def all : List Contender := [candidate, reference]

def key : Contender → String
  | candidate => "simple"
  | reference => "pthread"

end Contender

structure Wording where
  candidateLabel : String := "simple_mutex_t"
  referenceLabel : String := "pthread_mutex_t"
  throughputMarker : String := "Threads | simple_mutex_t"
  sectionMarker : String := "CS Size (ns) |"
  referenceFairness : String := "Pthread fairness ratio"
  termination : Termination := .blankLine
  deriving DecidableEq, Repr

namespace Wording

def label (wording : Wording) : Contender → String
  | .candidate => wording.candidateLabel
  | .reference => wording.referenceLabel

def throughputTable (wording : Wording) : Spec where
  marker := wording.throughputMarker
  minFields := 3
  termination := wording.termination

/-- Headers of this table carry the candidate's label, its rows never do. -/
def sectionTable (wording : Wording) : Spec where
  marker := wording.sectionMarker
  minFields := 3
  exclude := some wording.candidateLabel
  termination := wording.termination

end Wording

end ContentionCharts.Report
