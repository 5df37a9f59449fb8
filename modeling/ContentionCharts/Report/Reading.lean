import ContentionCharts.Number.Shortest
import ContentionCharts.Report.Ratio
import ContentionCharts.Report.Series
import ContentionCharts.Table.Cursor

/-!
Reading a report. The three parts are read from the same text without regard to one another, in the
order throughput, fairness, critical sections; reading never fails, a part that is missing is empty.
-/
namespace ContentionCharts.Report

open ContentionCharts.Table ContentionCharts.Number

def saying (message : String) : Event where
  level := .debug
  origin := .reading
  message := message

def shownRatio : Option Float → String
  | none => "None"
  | some ratio => "Some(" ++ shortestText ratio ++ ")"

def Fairness.text (fairness : Fairness) : String :=
  let fields := Contender.all.map fun contender =>
    contender.key ++ ": " ++ shownRatio (fairness.get? contender)
  "Fairness \x7b " ++ ", ".intercalate fields ++ " \x7d"

namespace Wording

def readSeries (table : Spec) (what : String) (text : String) : Logged Series :=
  let scanned := table.scan text
  let message := "Parsed " ++ toString scanned.value.length ++ " " ++ what ++ " rows"
  ⟨⟨scanned.value⟩, scanned.log ++ [saying message]⟩

def readThroughput (wording : Wording) (text : String) : Logged Series :=
  readSeries wording.throughputTable "throughput" text

def readSections (wording : Wording) (text : String) : Logged Series :=
  readSeries wording.sectionTable "critical section" text

def readFairness (wording : Wording) (text : String) : Logged Fairness :=
  let fairness : Fairness :=
    { candidate := (candidateRatio? wording.candidateLabel.toList text.toList).bind real?
      reference := (referenceRatio? wording.referenceFairness.toList text.toList).bind real? }
  ⟨fairness, [{ saying "Parsed fairness" with detail := " " ++ fairness.text }]⟩

def read (wording : Wording) (text : String) : Logged Findings :=
  let throughput := wording.readThroughput text
  let fairness := wording.readFairness text
  let sections := wording.readSections text
  ⟨⟨throughput.value, fairness.value, sections.value⟩,
    throughput.log ++ fairness.log ++ sections.log⟩

end Wording

end ContentionCharts.Report
