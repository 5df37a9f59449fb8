import ContentionCharts.Proofs.Table.Sheet
import ContentionCharts.Proofs.Text.Line
import ContentionCharts.Report.Reading

/-!
A report with both tables in it. Each table is found by its own header and read to its own blank
line, so neither takes up anything of the other or of the lines around them.
-/
namespace ContentionCharts.Report

open ContentionCharts.Table ContentionCharts.Text ContentionCharts.Number

/-- Whoever writes two tables into a report, among any other lines, gets their rows back: from every
text with these lines, and so from the one with a line feed after each of them. -/
theorem read_sheets (wording : Wording) (stops : wording.termination = .blankLine)
    (above between below : List (List Char)) (throughput : Sheet wording.throughputTable)
    (sections : Sheet wording.sectionTable)
    (throughput_unmarked :
      ∀ line ∈ above, occursIn wording.throughputMarker.toList line = false)
    (sections_unmarked : ∀ line ∈ above ++ throughput.lines ++ between,
      occursIn wording.sectionMarker.toList line = false) :
    let report := above ++ throughput.lines ++ between ++ sections.lines ++ below
    let Given (text : String) := (wording.read text).value.throughput = ⟨throughput.rows⟩ ∧
      (wording.read text).value.sections = ⟨sections.rows⟩
    (∀ text : String, lines text.toList = report → Given text) ∧
    ((∀ line ∈ report, '\n' ∉ line ∧ line.getLast? ≠ some '\r') →
      Given (String.ofList (unlines report))) := by
  intro report Given
  have hgiven (text : String) (htext : lines text.toList = report) : Given text := by
    have hthroughput : (wording.throughputTable.scan text).value = throughput.rows := by
      have hreport :
          report = above ++ throughput.lines ++ (between ++ sections.lines ++ below) := by
        simp only [report, List.append_assoc]
      rw [Spec.scan, htext, hreport]
      exact throughput.scanLines_value (Nat.le_refl 3) stops throughput_unmarked _
    have hsections : (wording.sectionTable.scan text).value = sections.rows := by
      rw [Spec.scan, htext]
      exact sections.scanLines_value (Nat.le_refl 3) stops sections_unmarked below
    exact ⟨congrArg Series.mk hthroughput, congrArg Series.mk hsections⟩
  refine ⟨hgiven, fun hlines => hgiven _ ?_⟩
  rw [String.toList_ofList]
  exact lines_unlines hlines

set_option maxRecDepth 4096 in
/-- Padded fields, a blank line and a rule before the rows, noise between them, lines below. -/
theorem read_sheets_padded :
    let text := "2 | 3 | 4\r\nThreads | simple_mutex_t | y\n\n---|---\n" ++
      " 1 | 12.5 ops | inf\nx | 1 | 2\n2|3|-4e1 z|w|\n \n7 | 8 | 9\n" ++
      "CS Size (ns) | K\n10| 0.5 |+7\n\t\n11 | 1 | 1"
    (Wording.read {} text).value.throughput =
      ⟨[⟨1, ofDecimal 125 (-1), infinity⟩, ⟨2, ofDecimal 3 0, -ofDecimal 4 1⟩]⟩ ∧
    (Wording.read {} text).value.sections = ⟨[⟨10, ofDecimal 5 (-1), ofDecimal 7 0⟩]⟩ := by
  intro text
  have h := read_sheets {} rfl ["2 | 3 | 4".toList] ["7 | 8 | 9".toList] ["11 | 1 | 1".toList]
    { header := "Threads | simple_mutex_t | y".toList
      preamble := [[], "---|---".toList]
      entries := [
        .row {
          row := ⟨1, ofDecimal 125 (-1), infinity⟩
          key := { before := [' '], word := ['1'], after := [' '] }
          candidate := { before := [' '], word := "12.5".toList, after := " ops ".toList }
          reference := { before := [' '], word := "inf".toList, after := [] }
          more := [] },
        .other "x | 1 | 2".toList,
        .row {
          row := ⟨2, ofDecimal 3 0, -ofDecimal 4 1⟩
          key := { before := [], word := ['2'], after := [] }
          candidate := { before := [], word := ['3'], after := [] }
          reference := { before := [], word := "-4e1".toList, after := " z".toList }
          more := [['w'], []] }]
      closing := [' '] }
    { header := "CS Size (ns) | K".toList
      preamble := []
      entries := [
        .row {
          row := ⟨10, ofDecimal 5 (-1), ofDecimal 7 0⟩
          key := { before := [], word := "10".toList, after := [] }
          candidate := { before := [' '], word := "0.5".toList, after := [' '] }
          reference := { before := [], word := "+7".toList, after := [] }
          more := [] }]
      closing := ['\t'] }
    (by decide) (by decide)
  exact h.1 text (by decide)

end ContentionCharts.Report
