import ContentionCharts.Proofs.Table.Replacement
import Mathlib.Data.List.TakeWhile

/-!
Where a table ends. A blank line that ends a table takes off what stands below it and changes
nothing above: its rows and events are the first ones of the table that goes on to the end of the
text. The two tables are one if no row is found, or if no blank line stands below the first row.
-/
namespace ContentionCharts.Table

open ContentionCharts.Text

namespace Spec

def belowRow (spec : Spec) (lines : List (List Char)) : List (List Char) :=
  (lines.dropWhile fun line => !spec.isRow line).tail

theorem body_prefix (spec : Spec) (lines : List (List Char)) : spec.body lines <+: lines := by
  unfold body
  cases spec.termination with
  | endOfText => exact List.prefix_refl lines
  | blankLine =>
    have hbelow := List.takeWhile_prefix (fun line => !spec.isBlankLine line)
      (l := lines.dropWhile fun line => !spec.isRow line)
    have hall := (List.prefix_append_right_inj
      (lines.takeWhile fun line => !spec.isRow line)).mpr hbelow
    rwa [List.takeWhile_append_dropWhile] at hall

theorem body_eq_self (spec : Spec) {lines : List (List Char)}
    (unbroken : ∀ line ∈ spec.belowRow lines, spec.isBlankLine line = false) :
    spec.body lines = lines := by
  unfold body
  cases spec.termination with
  | endOfText => rfl
  | blankLine =>
    have hbelow : (lines.dropWhile fun line => !spec.isRow line).takeWhile
        (fun line => !spec.isBlankLine line) = lines.dropWhile fun line => !spec.isRow line := by
      unfold belowRow at unbroken
      have hfirst := List.head?_dropWhile_not (fun line => !spec.isRow line) lines
      cases hrest : lines.dropWhile fun line => !spec.isRow line with
      | nil => rfl
      | cons row below =>
        rw [hrest] at unbroken hfirst
        have hrow : spec.isRow row = true := by simpa using hfirst
        rw [List.takeWhile_eq_self_iff, List.forall_mem_cons]
        refine ⟨by rw [isBlank_eq_false_of_isRow hrow]; rfl, fun line hline => ?_⟩
        rw [unbroken line hline]
        rfl
    dsimp only
    rw [hbelow, List.takeWhile_append_dropWhile]

theorem body_eq_self_of_rowsIn (spec : Spec) {lines : List (List Char)}
    (h : spec.rowsIn (spec.body lines) = []) : spec.body lines = lines := by
  have hrowless : ∀ line ∈ lines, spec.isRow line = false :=
    (spec.rowsIn_headed_eq_nil_iff lines).mp h
  have hbelow : spec.belowRow lines = [] := by
    unfold belowRow
    rw [List.dropWhile_eq_nil_iff.mpr fun line hline => by rw [hrowless line hline]; rfl]
    rfl
  apply spec.body_eq_self
  rw [hbelow]
  exact fun line hline => absurd hline List.not_mem_nil

end Spec

/-- Of two tables that differ in their end only, the one that ends at a blank line has the first
rows and the first events of the other. If it has no row, they are the same, and so they are if
there is no blank line below the first row. -/
theorem scan_truncated (spec : Spec) (text : String) :
    let cut := Spec.scan { spec with termination := .blankLine } text
    let whole := Spec.scan { spec with termination := .endOfText } text
    cut.value <+: whole.value ∧ cut.log <+: whole.log ∧
    (cut.value = [] → whole.value = [] ∧ cut.log = whole.log) ∧
    ((∀ line ∈ spec.belowRow (spec.belowHeader (lines text.toList)),
      spec.isBlankLine line = false) → cut = whole) := by
  intro cut whole
  let closing : Spec := { spec with termination := .blankLine }
  let table := spec.belowHeader (lines text.toList)
  have hcut : cut = ⟨spec.rowsIn (closing.body table), spec.discardsIn (closing.body table)⟩ :=
    closing.scan_eq text
  have hwhole : whole = ⟨spec.rowsIn table, spec.discardsIn table⟩ :=
    Spec.scan_eq { spec with termination := .endOfText } text
  rw [hcut, hwhole]
  refine ⟨(closing.body_prefix table).filterMap _, (closing.body_prefix table).filterMap _, ?_, ?_⟩
  · intro hempty
    have hsame : closing.body table = table := closing.body_eq_self_of_rowsIn hempty
    rw [hsame] at hempty ⊢
    exact ⟨hempty, rfl⟩
  · intro unbroken
    rw [closing.body_eq_self unbroken]

/-- Blank lines between the header and the first row end nothing, nor do blank lines around noise
if there is no row at all. -/
theorem scan_truncated_blanks_above :
    let cut : Spec := { marker := "T", minFields := 3, termination := .blankLine }
    let whole : Spec := { marker := "T", minFields := 3, termination := .endOfText }
    cut.scan "T\n\n \nx\n1 | 2 | 3\ny\n4 | 5 | 6" =
        whole.scan "T\n\n \nx\n1 | 2 | 3\ny\n4 | 5 | 6" ∧
      (whole.scan "T\n\nx | 2 | 3\n\ny\n").value = [] ∧
      (cut.scan "T\n\nx | 2 | 3\n\ny\n").log = (whole.scan "T\n\nx | 2 | 3\n\ny\n").log := by
  intro cut whole
  obtain ⟨-, -, -, hunbroken⟩ := scan_truncated cut "T\n\n \nx\n1 | 2 | 3\ny\n4 | 5 | 6"
  obtain ⟨-, -, hempty, -⟩ := scan_truncated cut "T\n\nx | 2 | 3\n\ny\n"
  refine ⟨hunbroken (by decide), hempty ?_⟩
  rw [← List.map_eq_nil_iff (f := Row.key), Spec.scan, Spec.scanLines_value]
  decide

end ContentionCharts.Table
