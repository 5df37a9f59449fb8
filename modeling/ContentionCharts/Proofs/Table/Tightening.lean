import ContentionCharts.Proofs.Table.Fields
import ContentionCharts.Proofs.Table.Scan
import ContentionCharts.Report.Reading

/-!
Asking more of a row. Two descriptions of tables may have the same header, and one of them may ask
for more fields or leave out lines with a phrase. Read to the end of the text, its rows are those
of the other one whose lines pass; no line that is turned away has any effect on another line.
-/
namespace ContentionCharts.Table

open ContentionCharts.Text ContentionCharts.Report

namespace Spec

variable {spec tighter : Spec}

/-- Each row of a table with the line at which it was given. -/
def sources (spec : Spec) : Phase → List (List Char) → List (List Char × Row)
  | _, [] => []
  | phase, line :: rest =>
    ((spec.step phase line).2.rows.map fun row => (line, row)) ++
      spec.sources (spec.step phase line).1 rest

theorem map_snd_sources (spec : Spec) (phase : Phase) (lines : List (List Char)) :
    (spec.sources phase lines).map Prod.snd = (Cursor.collect spec ⟨phase, lines⟩).value := by
  induction lines generalizing phase with
  | nil =>
    rw [Cursor.collect_nil]
    rfl
  | cons line rest ih =>
    rw [sources, List.map_append, ih, Cursor.collect_cons, List.map_map]
    exact congrArg (· ++ _) (List.map_id _)

def source? (spec : Spec) (line : List Char) : Option (List Char × Row) :=
  (spec.classOf line).row?.map fun row => (line, row)

theorem sources_eq_filterMap (spec : Spec) (phase : Phase) (lines : List (List Char)) :
    spec.sources phase lines = (spec.remaining phase lines).filterMap spec.source? := by
  induction lines generalizing phase with
  | nil =>
    rw [remaining_nil]
    rfl
  | cons line rest ih =>
    obtain ⟨later, verdict, hstep, hreads⟩ := spec.exists_reads phase line
    rw [sources, hstep, ih]
    have hline := hreads
    cases hreads with
    | above | header =>
      rw [hline.remaining_outside (.inl rfl)]
      rfl
    | closing | beyond =>
      rw [hline.remaining_outside (.inr rfl)]
      rfl
    | row inTable isData =>
      rw [hline.remaining_inTable inTable nofun]
      simp [source?, isData, LineClass.row?, Verdict.rows]
    | noise inTable isNoise =>
      rw [hline.remaining_inTable inTable (ne_ended inTable)]
      simp [source?, isNoise, LineClass.row?, Verdict.rows]
    | passed inTable noRow =>
      rw [hline.remaining_inTable inTable (ne_ended inTable)]
      simp [source?, noRow, Verdict.rows]

theorem sources_toEnd (toEnd : spec.termination = .endOfText) (lines : List (List Char)) :
    spec.sources .seeking lines = (spec.belowHeader lines).filterMap spec.source? := by
  rw [sources_eq_filterMap, remaining, body, toEnd]

/-! What a row must have, and what its line must not. -/

def isExcluded (spec : Spec) (line : List Char) : Bool :=
  spec.exclude.any fun phrase => occursIn phrase.toList (trim line)

def admits (spec : Spec) (line : List Char) : Bool :=
  expectedFields spec.minFields ≤ (fields line).length && !spec.isExcluded line

structure Tightens (tighter spec : Spec) : Prop where
  marker_eq : tighter.marker = spec.marker
  minFields_le : spec.minFields ≤ tighter.minFields
  exclude_eq : tighter.exclude = spec.exclude ∨ spec.exclude = none

theorem isHeader_trim (spec : Spec) (line : List Char) :
    spec.isHeader (trim line) = (occursIn spec.marker.toList (trim line) || spec.isExcluded line) :=
  rfl

theorem isExcluded_of_exclude {phrase : String} (h : spec.exclude = some phrase)
    (line : List Char) : spec.isExcluded line = occursIn phrase.toList (trim line) := by
  rw [isExcluded, h, Option.any_some]

theorem row?_eq_some_iff {line : List Char} {row : Row} :
    (spec.classOf line).row? = some row ↔ spec.classOf line = .data row := by
  cases spec.classOf line <;> simp [LineClass.row?]

theorem enough_of_mem_sources {phase : Phase} {lines : List (List Char)}
    {source : List Char × Row} (h : source ∈ spec.sources phase lines) :
    expectedFields spec.minFields ≤ (fields source.1).length := by
  rw [sources_eq_filterMap, List.mem_filterMap] at h
  obtain ⟨line, -, hsource⟩ := h
  obtain ⟨row, hrow, rfl⟩ := Option.map_eq_some_iff.mp hsource
  rw [row?_eq_some_iff, classOf_eq_data_iff,
    Row.ofLine_eq_ok_iff_of_le (Nat.le_refl spec.minFields)] at hrow
  exact hrow.1.2

namespace Tightens

theorem isHeader_iff (h : tighter.Tightens spec) (line : List Char) :
    tighter.isHeader (trim line) = false ↔
      spec.isHeader (trim line) = false ∧ tighter.isExcluded line = false := by
  rw [isHeader_trim, isHeader_trim, h.marker_eq, Bool.or_eq_false_iff, Bool.or_eq_false_iff]
  have hexcluded : tighter.isExcluded line = false → spec.isExcluded line = false := by
    unfold isExcluded
    rcases h.exclude_eq with hsame | hnone
    · rw [hsame]
      exact id
    · rw [hnone]
      exact fun _ => rfl
  tauto

theorem row?_eq (h : tighter.Tightens spec) (line : List Char) :
    (tighter.classOf line).row? = (spec.classOf line).row?.filter fun _ => tighter.admits line := by
  apply Option.ext
  intro row
  rw [Option.filter_eq_some_iff, row?_eq_some_iff, row?_eq_some_iff, classOf_eq_data_iff,
    classOf_eq_data_iff, h.isHeader_iff, Row.ofLine_eq_ok_iff_of_le h.minFields_le, admits,
    Bool.and_eq_true, decide_eq_true_iff, Bool.not_eq_true']
  tauto

theorem source?_eq (h : tighter.Tightens spec) (line : List Char) :
    tighter.source? line = (spec.source? line).filter fun source => tighter.admits source.1 := by
  rw [source?, source?, h.row?_eq]
  cases (spec.classOf line).row? with
  | none => rfl
  | some row => cases hadmits : tighter.admits line <;> simp [Option.filter, hadmits]

theorem sources_eq (h : tighter.Tightens spec) (toEnd : spec.termination = .endOfText)
    (tighterToEnd : tighter.termination = .endOfText) (lines : List (List Char)) :
    tighter.sources .seeking lines =
      (spec.sources .seeking lines).filter fun source => tighter.admits source.1 := by
  rw [sources_toEnd toEnd, sources_toEnd tighterToEnd, List.filter_filterMap, belowHeader,
    belowHeader, h.marker_eq]
  exact List.filterMap_congr fun line _ => h.source?_eq line

end Tightens

end Spec

/-- Of two tables read to the end of a text, one that asks for no less in the rows has those rows of
the other whose lines have fields enough and are free of its phrase, as they are and in their order.
The series of sections, read so, leaves out the rows whose lines carry the candidate's label. -/
theorem scan_of_tightens {spec tighter : Spec} (tightens : tighter.Tightens spec)
    (toEnd : spec.termination = .endOfText) (tighterToEnd : tighter.termination = .endOfText)
    (text : String) :
    let found := spec.sources .seeking (lines text.toList)
    let kept := found.filter fun source => tighter.admits source.1
    (spec.scan text).value = found.map Prod.snd ∧
    (tighter.scan text).value = kept.map Prod.snd ∧
    ∀ wording : Wording, wording.termination = .endOfText →
      let unlabelled : Spec := { wording.sectionTable with exclude := none }
      let sections := unlabelled.sources .seeking (lines text.toList)
      (unlabelled.scan text).value = sections.map Prod.snd ∧
      (wording.readSections text).value.rows = (sections.filter fun source =>
        !occursIn wording.candidateLabel.toList (trim source.1)).map Prod.snd := by
  have hscan (table : Spec) :
      (table.scan text).value = (table.sources .seeking (lines text.toList)).map Prod.snd :=
    (table.map_snd_sources .seeking (lines text.toList)).symm
  intro found kept
  refine ⟨hscan spec, ?_, ?_⟩
  · rw [hscan, tightens.sources_eq toEnd tighterToEnd]
  · intro wording sectionsToEnd unlabelled sections
    have hsections : wording.sectionTable.Tightens unlabelled :=
      ⟨rfl, Nat.le_refl _, .inr rfl⟩
    have hadmits : ∀ source ∈ sections, wording.sectionTable.admits source.1 =
        !occursIn wording.candidateLabel.toList (trim source.1) := by
      intro source hsource
      rw [Spec.admits, decide_eq_true (Spec.enough_of_mem_sources hsource), Bool.true_and,
        Spec.isExcluded_of_exclude rfl]
    refine ⟨hscan unlabelled, ?_⟩
    calc
      (wording.readSections text).value.rows =
          (wording.sectionTable.sources .seeking (lines text.toList)).map Prod.snd :=
        hscan wording.sectionTable
      _ = (sections.filter fun source => wording.sectionTable.admits source.1).map Prod.snd := by
        rw [hsections.sources_eq sectionsToEnd sectionsToEnd]
      _ = _ := by rw [List.filter_congr hadmits]

/-- One row has too few fields and one the phrase; and a row of a section with the label in it,
which a blank line below the first row does not hide. -/
theorem scan_of_tightens_fields_and_phrase :
    let spec : Spec := { marker := "T", minFields := 0, termination := .endOfText }
    let tighter : Spec := { spec with minFields := 4, exclude := some "x" }
    let text := "T\n1 | 2 | 3\n4 | 5 | 6 | x\n\n7 | 8 | 9 |\n"
    let wording : Wording :=
      { sectionMarker := "T", candidateLabel := "x", termination := .endOfText }
    (tighter.scan text).value.map Row.key = [7] ∧
      (wording.readSections text).value.keys = [1, 7] := by
  intro spec tighter text wording
  have tightens : tighter.Tightens spec := ⟨rfl, by decide, .inr rfl⟩
  obtain ⟨-, htighter, hsections⟩ := scan_of_tightens tightens rfl rfl text
  refine ⟨?_, ?_⟩
  · rw [htighter]
    decide
  · rw [Series.keys, (hsections wording rfl).2]
    decide

end ContentionCharts.Table
