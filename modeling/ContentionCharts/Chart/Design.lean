import ContentionCharts.Chart.Comparison
import ContentionCharts.Chart.Ratios
import ContentionCharts.Log

/-!
Which charts a report gives rise to. Each kind of chart is either designed in full or skipped with
one word to the log; nothing is drawn here.
-/
namespace ContentionCharts

open ContentionCharts.Report ContentionCharts.Table

inductive ChartKind where
  | throughput | scalability | fairness | sections
  deriving DecidableEq, Repr

namespace ChartKind

def all : List ChartKind := [throughput, scalability, fairness, sections]

def fileName (files : FileNames) : ChartKind → String
  | throughput => files.throughput
  | scalability => files.scalability
  | fairness => files.fairness
  | sections => files.sections

def noun : ChartKind → String
  | throughput => "throughput plot"
  | scalability => "scalability plot"
  | fairness => "fairness chart"
  | sections => "CS sensitivity plot"

end ChartKind

def relativeToFirst : List Float → Option (List Float)
  | [] => none
  | first :: rest => if first == 0 then none else some ((first :: rest).map (· / first))

def skipping (level : Level) (message : String) : Event where
  level := level
  origin := .drawing
  message := message

def keyPositions (series : Series) : List Float :=
  series.keys.map UInt64.toFloat

/-- The positions at which the columns of a series have a positive key: a logarithmic axis has no
place for a key of zero. -/
def Report.Series.positions (series : Series) : List Nat :=
  let keys := series.keys.toArray
  (List.range series.size).filter fun i => keys[i]?.any (0 < ·)

def pick {α : Type} (positions : List Nat) (column : List α) : List α :=
  let values := column.toArray
  positions.filterMap (values[·]?)

def throughputComparison (series : Series) : Except Event Comparison :=
  if series.isEmpty then .error (skipping .debug "No throughput data")
  else .ok {
    title := "Mutex Throughput vs Contention"
    keyTitle := "Number of Threads"
    valueTitle := "Throughput (M ops/sec)"
    scale := .linear
    keys := keyPositions series
    candidate := series.candidate
    reference := series.reference }

def scalabilityComparison (series : Series) : Except Event Comparison :=
  if series.isEmpty then .error (skipping .debug "No throughput data to normalize")
  else
    match relativeToFirst series.candidate, relativeToFirst series.reference with
    | some candidate, some reference => .ok {
        title := "Mutex Scalability"
        keyTitle := "Number of Threads"
        valueTitle := "Normalized Throughput (vs 1 thread)"
        scale := .linear
        keys := keyPositions series
        candidate
        reference
        ideal := some 1 }
    | _, _ =>
      .error (skipping .warn "Single thread throughput is zero, skipping scalability plot")

def sectionComparison (series : Series) : Except Event Comparison :=
  let positions := series.positions
  if positions.isEmpty then .error (skipping .debug "No critical section data")
  else .ok {
    title := "Performance vs Critical Section Size"
    keyTitle := "Critical Section Size (ns, log scale)"
    valueTitle := "Throughput (K ops/sec)"
    scale := .logarithmic
    keys := (pick positions series.keys).map UInt64.toFloat
    candidate := pick positions series.candidate
    reference := pick positions series.reference }

structure Presentation where
  settings : Settings := {}
  wording : Wording := {}

namespace Presentation

def destination (presentation : Presentation) (kind : ChartKind) (explicit : Option Path) : Path :=
  explicit.getD (presentation.settings.file (kind.fileName presentation.settings.files))

def compare (presentation : Presentation) (path : Path) (comparison : Comparison) : Chart :=
  .lines (comparison.layOut presentation.settings presentation.wording path)

def design (presentation : Presentation) (findings : Findings) (kind : ChartKind)
    (explicit : Option Path := none) : Except Event Chart :=
  let path := presentation.destination kind explicit
  match kind with
  | .throughput => (throughputComparison findings.throughput).map (presentation.compare path)
  | .scalability => (scalabilityComparison findings.throughput).map (presentation.compare path)
  | .sections => (sectionComparison findings.sections).map (presentation.compare path)
  | .fairness =>
    match findings.fairness.present with
    | [] => .error (skipping .debug "No fairness data")
    | entries =>
      .ok (.bars (layOutRatios presentation.settings presentation.wording entries path))

end Presentation

end ContentionCharts
