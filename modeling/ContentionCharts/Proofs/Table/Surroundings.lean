import ContentionCharts.Proofs.Table.Replacement
import ContentionCharts.Proofs.Text.Line
import ContentionCharts.Proofs.Text.Trim

/-!
A table among other text. What stands above the header has no say if it does not look like the
header, and nothing below the first blank line after a row has any. The seams are part of this: a
line feed at the end of a text can take a carriage return off its last line, and no row minds.
-/
namespace ContentionCharts.Table

open ContentionCharts.Text

theorem trim_dropReturn (line : List Char) : trim (dropReturn line) = trim line := by
  unfold dropReturn
  split
  · rename_i hreturn
    obtain ⟨before, rfl⟩ := List.getLast?_eq_some_iff.mp hreturn
    rw [List.dropLast_concat, trim_concat_of_blank before (by decide)]
  · rfl

namespace Spec

theorem classOf_dropReturn (spec : Spec) (line : List Char) :
    spec.classOf (dropReturn line) = spec.classOf line := by
  unfold classOf
  rw [trim_dropReturn]

theorem rowsIn_remaining_singleton (spec : Spec) (phase : Phase) (line : List Char) :
    spec.rowsIn (spec.remaining phase [line]) =
      if phase = .headed ∨ phase = .filled then (spec.classOf line).row?.toList else [] := by
  obtain ⟨later, verdict, hstep, hreads⟩ := spec.exists_reads phase line
  rw [hreads.rowsIn_remaining, remaining_nil]
  cases hreads with
  | above | header | beyond => simp [Verdict.rows, rowsIn]
  | row inTable isData => simp [Verdict.rows, rowsIn, inTable, isData, LineClass.row?]
  | noise inTable isNoise => simp [Verdict.rows, rowsIn, inTable, isNoise, LineClass.row?]
  | passed inTable noRow => simp [Verdict.rows, rowsIn, inTable, noRow]
  | closing isBlank => simp [Verdict.rows, rowsIn, isBlank, LineClass.row?]

/-- The last line counts by its class alone: as a header it would come too late. -/
theorem rowsIn_concat_congr (spec : Spec) (phase : Phase) (before : List (List Char))
    {line other : List Char} (h : spec.classOf line = spec.classOf other) :
    spec.rowsIn (spec.remaining phase (before ++ [line])) =
      spec.rowsIn (spec.remaining phase (before ++ [other])) := by
  rw [rowsIn_remaining_append, rowsIn_remaining_append, rowsIn_remaining_singleton,
    rowsIn_remaining_singleton, h]

theorem rowsIn_concat_empty (spec : Spec) (phase : Phase) (before : List (List Char)) :
    spec.rowsIn (spec.remaining phase (before ++ [[]])) =
      spec.rowsIn (spec.remaining phase before) := by
  have hclass : (spec.classOf []).row? = none := rfl
  rw [rowsIn_remaining_append, rowsIn_remaining_singleton, hclass]
  simp

theorem rowsIn_lines_concat_feed (spec : Spec) (text : List Char) :
    spec.rowsIn (spec.remaining .seeking (lines (text ++ ['\n']))) =
      spec.rowsIn (spec.remaining .seeking (lines text)) := by
  obtain ⟨before, last, hlines, hclosed⟩ := exists_lines_closed text
  rw [hlines, hclosed, spec.rowsIn_concat_congr .seeking before (spec.classOf_dropReturn last)]
  by_cases hempty : last = []
  · rw [if_pos hempty, hempty, rowsIn_concat_empty, List.append_nil]
  · rw [if_neg hempty]

theorem rowsIn_append_empty (spec : Spec) (stops : spec.termination = .blankLine)
    {lines : List (List Char)} (h : spec.rowsIn (spec.remaining .seeking lines) ≠ [])
    (rest : List (List Char)) :
    spec.rowsIn (spec.remaining .seeking (lines ++ [] :: rest)) =
      spec.rowsIn (spec.remaining .seeking lines) := by
  have hblank : spec.isBlankLine [] = true := rfl
  have hafter : spec.remaining (spec.phaseAfter .seeking lines) ([] :: rest) = [] := by
    rcases spec.phaseAfter_of_rows lines (.inl rfl) h with hfilled | hended
    · rw [hfilled, remaining_filled_cons, if_pos ⟨stops, hblank⟩]
    · rw [hended]
      rfl
  rw [rowsIn_remaining_append, hafter]
  simp [rowsIn]

end Spec

/-- The rows of a table that a blank line ends are its own, whatever text without its marker is put
above it and whatever is put below an empty line after it: further tables are no exception, nor is
a table whose last line was not finished. -/
theorem scan_surrounded (spec : Spec) (stops : spec.termination = .blankLine)
    (above text below : String) (some_row : (spec.scan text).value ≠ [])
    (closed : above = "" ∨ above.toList.getLast? = some '\n')
    (unmarked : ∀ line ∈ lines above.toList, occursIn spec.marker.toList line = false) :
    (spec.scan (above ++ text ++ "\n\n" ++ below)).value = (spec.scan text).value := by
  have hclosed : above.toList = [] ∨ above.toList.getLast? = some '\n' := by
    rcases closed with rfl | hlast
    · exact .inl rfl
    · exact .inr hlast
  have hlines : lines (above ++ text ++ "\n\n" ++ below).toList =
      lines above.toList ++
        (lines (text.toList ++ ['\n']) ++ [] :: lines below.toList) := by
    have hempty : lines ('\n' :: below.toList) = [] :: lines below.toList :=
      lines_append_cons List.not_mem_nil below.toList
    rw [← hempty, ← lines_append_feed, ← lines_append hclosed]
    simp
  rw [Spec.scan, Spec.scanLines_value] at some_row ⊢
  rw [Spec.scan, Spec.scanLines_value, hlines, spec.remaining_seeking_of_unmarked unmarked,
    ← spec.rowsIn_lines_concat_feed]
  rw [← spec.rowsIn_lines_concat_feed] at some_row
  exact spec.rowsIn_append_empty stops some_row _

/-- A last line that a line feed takes a carriage return off, a row above the header, and another
table below. -/
theorem scan_surrounded_unfinished :
    let spec : Spec := { marker := "T", minFields := 3 }
    let text := "x | T\n\n1 | 2 | 3\r\n4 | 5 | 6\r"
    (spec.scan text).value.map Row.key = [1, 4] ∧
      (spec.scan ("0 | 0 | 0\r\n" ++ text ++ "\n\n" ++ "T\n7 | 8 | 9\n")).value =
        (spec.scan text).value := by
  intro spec text
  have hkeys : (spec.scan text).value.map Row.key = [1, 4] := by
    rw [Spec.scan, Spec.scanLines_value]
    decide
  refine ⟨hkeys, scan_surrounded spec rfl "0 | 0 | 0\r\n" text "T\n7 | 8 | 9\n" ?_ ?_ ?_⟩
  · intro hnone
    rw [hnone] at hkeys
    contradiction
  · decide
  · decide

end ContentionCharts.Table
