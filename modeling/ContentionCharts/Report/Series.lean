import ContentionCharts.Report.Wording

/-!
What a report says: two series of measurements and the fairness of each contender. A series
keeps its rows together, so its columns have one length and one order; equality compares numbers as
IEEE does, a NaN being different from itself.
-/
namespace ContentionCharts.Report

open ContentionCharts.Table

structure Series where
  rows : List Row
  deriving BEq

namespace Series

def empty : Series := ⟨[]⟩

def size (series : Series) : Nat := series.rows.length

def isEmpty (series : Series) : Bool := series.rows.isEmpty

def keys (series : Series) : List UInt64 := series.rows.map Row.key

def candidate (series : Series) : List Float := series.rows.map Row.candidate

def reference (series : Series) : List Float := series.rows.map Row.reference

end Series

/-- The fewest operations of a thread over the most, where the report states it. -/
structure Fairness where
  candidate : Option Float := none
  reference : Option Float := none

namespace Fairness

def get? (fairness : Fairness) : Contender → Option Float
  | .candidate => fairness.candidate
  | .reference => fairness.reference

def present (fairness : Fairness) : List (Contender × Float) :=
  Contender.all.filterMap fun contender =>
    (fairness.get? contender).map fun ratio => (contender, ratio)

def isEmpty (fairness : Fairness) : Bool :=
  fairness.candidate.isNone && fairness.reference.isNone

end Fairness

structure Findings where
  /-- Operations in millions per second, by number of threads. -/
  throughput : Series := .empty
  fairness : Fairness := {}
  /-- Operations in thousands per second, by nanoseconds spent in the critical section. -/
  sections : Series := .empty

end ContentionCharts.Report
