import ContentionCharts.Proofs.Table.Scan
import ContentionCharts.Report.Reading

/-!
The series of a report and the lines they come from. A series holds one row for each line of its
table that is a row, whichever way the rows are asked for.
-/
namespace ContentionCharts.Report

open ContentionCharts.Table ContentionCharts.Text

/-- A scan of any text gives the rows and the events of the lines of its table and nothing else,
and a series keeps the rows in three columns. Single questions get the same rows one by one, then
nothing; a table that has ended goes on swallowing lines without a word. -/
theorem scan_eq_body (spec : Spec) (text what : String) :
    let kept := spec.body (spec.belowHeader (lines text.toList))
    let start := Cursor.atStart (lines text.toList)
    let series := (Wording.readSeries spec what text).value
    (spec.scan text).value = spec.rowsIn kept ∧
    (spec.scan text).log = spec.discardsIn kept ∧
    (∀ n, (start.pull spec n).value = answers n (spec.rowsIn kept)) ∧
    (∀ n, (start.pull spec n).log = spec.discardsIn (spec.through n kept)) ∧
    (∀ n, (start.pull spec ((spec.rowsIn kept).length + 1 + n)).log = (spec.scan text).log) ∧
    (∀ line rest, Cursor.next spec ⟨.ended, line :: rest⟩ = ⟨(none, ⟨.ended, rest⟩), []⟩) ∧
    series.keys = (spec.rowsIn kept).map Row.key ∧
    series.candidate = (spec.rowsIn kept).map Row.candidate ∧
    series.reference = (spec.rowsIn kept).map Row.reference ∧
    series.keys.length = series.candidate.length ∧
    series.keys.length = series.reference.length := by
  intro kept start series
  have hscan : spec.scan text = ⟨spec.rowsIn kept, spec.discardsIn kept⟩ :=
    Cursor.collect_eq spec .seeking (lines text.toList)
  have hpull (n : Nat) : start.pull spec n =
      ⟨answers n (spec.rowsIn kept), spec.discardsIn (spec.through n kept)⟩ :=
    Cursor.pull_eq spec n .seeking (lines text.toList)
  have hseries : series.rows = spec.rowsIn kept := congrArg Logged.value hscan
  refine ⟨by rw [hscan], by rw [hscan], fun n => by rw [hpull], fun n => by rw [hpull], ?_,
    fun line rest => Cursor.next_of_stopped rfl rest, ?_, ?_, ?_, ?_, ?_⟩
  · intro n
    rw [hpull, hscan, Spec.through_of_length_lt spec (by omega)]
  · rw [Series.keys, hseries]
  · rw [Series.candidate, hseries]
  · rw [Series.reference, hseries]
  · simp [Series.keys, Series.candidate]
  · simp [Series.keys, Series.reference]

end ContentionCharts.Report
