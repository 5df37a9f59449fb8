import ContentionCharts.Proofs.Table.Fields
import ContentionCharts.Proofs.Table.Scan

/-!
Tables as they are written in a report: a header, perhaps some lines without rows, rows with other
lines in between, and a blank line. The writer is free in how a cell is padded, in what follows its
number, and in the fields after the third. The main statement says that a scan gives the rows that
were written, whatever surrounds the table.
-/
namespace ContentionCharts.Table

open ContentionCharts.Text ContentionCharts.Number

/-- A field: blanks, a word, and after it nothing or a blank with any text. -/
structure Cell where
  before : List Char
  word : List Char
  after : List Char
  blank_before : before.all isBlank := by decide
  word_ne_nil : word ≠ [] := by decide
  solid_word : word.all (fun c => !isBlank c) := by decide
  blank_after : after.head?.all isBlank := by decide
  bar_notMem : '|' ∉ word ++ after := by decide

namespace Cell

def text (cell : Cell) : List Char :=
  cell.before ++ cell.word ++ cell.after

theorem firstWord?_text (cell : Cell) : firstWord? cell.text = some cell.word := by
  apply firstWord?_append
  · exact List.all_eq_true.mp cell.blank_before
  · exact cell.word_ne_nil
  · intro c hc
    exact (Bool.not_eq_true' _).mp (List.all_eq_true.mp cell.solid_word c hc)
  · exact (Option.all_eq_true isBlank _).mp cell.blank_after

theorem bar_notMem_text (cell : Cell) : '|' ∉ cell.text := by
  unfold text
  rw [List.append_assoc, List.mem_append]
  rintro (hbefore | hrest)
  · exact ne_bar_of_isBlank (List.all_eq_true.mp cell.blank_before '|' hbefore) rfl
  · exact cell.bar_notMem hrest

end Cell

/-- A row as it is written: three cells whose words are its numbers, then any further fields. -/
structure RowLine where
  row : Row
  key : Cell
  candidate : Cell
  reference : Cell
  more : List (List Char)
  key_eq : word? key.word = some row.key := by rfl
  candidate_eq : real? candidate.word = some row.candidate := by rfl
  reference_eq : real? reference.word = some row.reference := by rfl
  bar_notMem : ∀ field ∈ more, '|' ∉ field := by decide

namespace RowLine

def cells (line : RowLine) : List (List Char) :=
  line.key.text :: line.candidate.text :: line.reference.text :: line.more

def text (line : RowLine) : List Char :=
  ['|'].intercalate line.cells

theorem fields_text (line : RowLine) : fields line.text = line.cells := by
  apply List.splitOn_intercalate
  · unfold cells
    simp only [List.forall_mem_cons]
    exact ⟨line.key.bar_notMem_text, line.candidate.bar_notMem_text,
      line.reference.bar_notMem_text, line.bar_notMem⟩
  · simp [cells]

theorem ofLine_text (line : RowLine) {minFields : Nat} (h : minFields ≤ line.more.length + 3) :
    Row.ofLine minFields line.text = .ok line.row := by
  rw [Row.ofLine_eq_ofWords, fields_text, Row.ofWords_eq_ok_iff]
  refine ⟨line.key.word, line.candidate.word, line.reference.word, line.more.map firstWord?, ?_,
    ?_, line.key_eq, line.candidate_eq, line.reference_eq⟩
  · simp only [cells, List.map_cons, Cell.firstWord?_text]
  · simp only [cells, List.map_cons, List.length_cons, List.length_map, expectedFields]
    omega

end RowLine

inductive Entry where
  | row (line : RowLine)
  | other (line : List Char)

namespace Entry

def text : Entry → List Char
  | row line => line.text
  | other line => line

def row? : Entry → Option Row
  | row line => some line.row
  | other _ => none

/-- Rows must not look like headers, and other lines neither like rows nor blank. -/
def Fits (spec : Spec) : Entry → Prop
  | row line => spec.isHeader line.text = false
  | other line => spec.isRow line = false ∧ spec.isBlankLine line = false

instance (spec : Spec) (entry : Entry) : Decidable (entry.Fits spec) :=
  match entry with
  | row line => inferInstanceAs (Decidable (spec.isHeader line.text = false))
  | other line =>
    inferInstanceAs (Decidable (spec.isRow line = false ∧ spec.isBlankLine line = false))

end Entry

/-- A table as it is written, from its header to the blank line below it. The lines between the
header and the first row may be blank, those among the rows may not. -/
structure Sheet (spec : Spec) where
  header : List Char
  preamble : List (List Char)
  entries : List Entry
  closing : List Char
  marked : occursIn spec.marker.toList header := by decide
  rowless : ∀ line ∈ preamble, spec.isRow line = false := by decide
  fits : ∀ entry ∈ entries, entry.Fits spec := by decide
  some_row : ∃ entry ∈ entries, entry.row?.isSome := by decide
  blank : closing.all isBlank := by decide

namespace Sheet

variable {spec : Spec}

def rows (sheet : Sheet spec) : List Row :=
  sheet.entries.filterMap Entry.row?

def lines (sheet : Sheet spec) : List (List Char) :=
  sheet.header :: (sheet.preamble ++ sheet.entries.map Entry.text ++ [sheet.closing])

theorem classOf_entry (sheet : Sheet spec) (few : spec.minFields ≤ 3) {entry : Entry}
    (h : entry ∈ sheet.entries) :
    (spec.classOf entry.text).row? = entry.row? ∧ spec.isBlankLine entry.text = false := by
  have hfits := sheet.fits entry h
  cases entry with
  | row line =>
    have hdata : spec.classOf line.text = .data line.row :=
      Spec.classOf_eq_data (line.ofLine_text (by omega)) hfits
    refine ⟨?_, Spec.isBlank_eq_false_of_isRow (Spec.isRow_of_data hdata)⟩
    rw [Entry.text, hdata]
    rfl
  | other line =>
    rcases hfits with ⟨hrow, hblank⟩
    have hnone : (spec.classOf line).row? = none := by simpa [Spec.isRow] using hrow
    exact ⟨hnone, hblank⟩

theorem rowsIn_entries (sheet : Sheet spec) (few : spec.minFields ≤ 3) :
    spec.rowsIn (sheet.entries.map Entry.text) = sheet.rows := by
  unfold Spec.rowsIn rows
  rw [List.filterMap_map]
  apply List.filterMap_congr
  intro entry hentry
  exact (sheet.classOf_entry few hentry).1

theorem solid_entries (sheet : Sheet spec) (few : spec.minFields ≤ 3) :
    ∀ line ∈ sheet.entries.map Entry.text, spec.isBlankLine line = false := by
  intro line hline
  rcases List.mem_map.mp hline with ⟨entry, hentry, rfl⟩
  exact (sheet.classOf_entry few hentry).2

theorem exists_row_entries (sheet : Sheet spec) (few : spec.minFields ≤ 3) :
    ∃ line ∈ sheet.entries.map Entry.text, spec.isRow line = true := by
  rcases sheet.some_row with ⟨entry, hentry, hsome⟩
  refine ⟨entry.text, List.mem_map_of_mem hentry, ?_⟩
  rw [Spec.isRow, (sheet.classOf_entry few hentry).1, hsome]

theorem scanLines_value (sheet : Sheet spec) (few : spec.minFields ≤ 3)
    (stops : spec.termination = .blankLine) {above : List (List Char)}
    (unmarked : ∀ line ∈ above, occursIn spec.marker.toList line = false)
    (below : List (List Char)) :
    (spec.scanLines (above ++ sheet.lines ++ below)).value = sheet.rows := by
  have hclosing : spec.isBlankLine sheet.closing = true := by
    rw [Spec.isBlankLine, Spec.classOf_eq_blank (List.all_eq_true.mp sheet.blank)]
    rfl
  have hend : spec.remaining .filled (sheet.closing :: below) = [] := by
    rw [Spec.remaining_filled_cons, if_pos ⟨stops, hclosing⟩]
  have hremaining : spec.remaining .seeking (above ++ sheet.lines ++ below) =
      sheet.preamble ++ sheet.entries.map Entry.text := by
    have hlines : above ++ sheet.lines ++ below = above ++ sheet.header ::
        (sheet.preamble ++ (sheet.entries.map Entry.text ++ sheet.closing :: below)) := by
      simp [lines]
    rw [hlines, spec.remaining_seeking_append unmarked sheet.marked,
      spec.remaining_headed_append sheet.rowless,
      spec.remaining_headed_append_of_row (sheet.solid_entries few) (sheet.exists_row_entries few),
      hend, List.append_nil]
  have hpreamble : spec.rowsIn sheet.preamble = [] := by
    rw [Spec.rowsIn, List.filterMap_eq_nil_iff]
    intro line hline
    simpa [Spec.isRow] using sheet.rowless line hline
  rw [Spec.scanLines_value, hremaining]
  calc
    spec.rowsIn (sheet.preamble ++ sheet.entries.map Entry.text) =
        spec.rowsIn sheet.preamble ++ spec.rowsIn (sheet.entries.map Entry.text) :=
      List.filterMap_append
    _ = sheet.rows := by rw [hpreamble, sheet.rowsIn_entries few, List.nil_append]

end Sheet

end ContentionCharts.Table
