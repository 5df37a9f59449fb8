import ContentionCharts.Proofs.Chart.Comparison

/-!
What a report must hold for each kind of chart, and what is said if it does not. Every kind is
either designed, for its own file unless another one is asked for, or skipped with one word. The
lines of a chart that is designed are the rows of the report and nothing else.
-/
namespace ContentionCharts

open ContentionCharts.Report ContentionCharts.Table ContentionCharts.Number

def Report.Findings.supports (findings : Findings) : ChartKind → Bool
  | .throughput => !findings.throughput.rows.isEmpty
  | .scalability => findings.throughput.rows.head?.any fun first => !first.hasZero
  | .fairness => findings.fairness.candidate.isSome || findings.fairness.reference.isSome
  | .sections => findings.sections.rows.any fun row => 0 < row.key

def Report.Findings.absence (findings : Findings) : ChartKind → Event
  | .throughput => skipping .debug "No throughput data"
  | .scalability =>
    if findings.throughput.rows.isEmpty then skipping .debug "No throughput data to normalize"
    else skipping .warn "Single thread throughput is zero, skipping scalability plot"
  | .fairness => skipping .debug "No fairness data"
  | .sections => skipping .debug "No critical section data"

def Report.Findings.rowsFor (findings : Findings) : ChartKind → List Row
  | .throughput | .scalability => findings.throughput.rows
  | .fairness => []
  | .sections => findings.sections.rows.filter fun row => 0 < row.key

/-- What is drawn of a row: its value, which scalability divides by the one in the first row. -/
def valueFor (kind : ChartKind) (rows : List Row) (contender : Contender) (row : Row) : Float :=
  match kind, rows with
  | .scalability, first :: _ => contender.value row / contender.value first
  | _, _ => contender.value row

theorem Report.Fairness.present_eq_nil_iff (fairness : Fairness) :
    fairness.present = [] ↔
      (fairness.candidate.isSome || fairness.reference.isSome) = false := by
  unfold Fairness.present Contender.all
  cases hcandidate : fairness.candidate <;> cases hreference : fairness.reference <;>
    simp [Fairness.get?, hcandidate, hreference]

theorem Report.Series.positive_rows_eq_nil_iff (series : Series) :
    series.positive.rows = [] ↔ (series.rows.any fun row => 0 < row.key) = false := by
  simp [Series.positive]

namespace Presentation

variable {presentation : Presentation} {findings : Findings} {kind : ChartKind}
  {explicit : Option Path}

theorem design_cases (presentation : Presentation) (findings : Findings) (kind : ChartKind)
    (explicit : Option Path) :
    findings.supports kind = false ∧
        presentation.design findings kind explicit = .error (findings.absence kind) ∨
      findings.supports kind = true ∧ ∃ chart,
        presentation.design findings kind explicit = .ok chart ∧
        chart.path = presentation.destination kind explicit := by
  cases kind with
  | throughput =>
    unfold design
    rcases throughputComparison_cases findings.throughput with
      ⟨hrows, h⟩ | ⟨hrows, comparison, h, _⟩
    · exact .inl ⟨by simp [Findings.supports, hrows], by rw [h]; rfl⟩
    · exact .inr ⟨by simp [Findings.supports, hrows], _, by rw [h]; rfl, rfl⟩
  | scalability =>
    unfold design
    rcases scalabilityComparison_cases findings.throughput with
      ⟨hrows, h⟩ | ⟨first, rest, hrows, ⟨hzero, h⟩ | ⟨hzero, comparison, h, _⟩⟩
    · have habsence : findings.absence .scalability =
          skipping .debug "No throughput data to normalize" := by
        simp [Findings.absence, hrows]
      exact .inl ⟨by simp [Findings.supports, hrows], by rw [h, habsence]; rfl⟩
    · have habsence : findings.absence .scalability =
          skipping .warn "Single thread throughput is zero, skipping scalability plot" := by
        simp [Findings.absence, hrows]
      exact .inl ⟨by simp [Findings.supports, hrows, hzero], by rw [h, habsence]; rfl⟩
    · exact .inr ⟨by simp [Findings.supports, hrows, hzero], _, by rw [h]; rfl, rfl⟩
  | fairness =>
    unfold design
    cases hpresent : findings.fairness.present with
    | nil =>
      rw [Fairness.present_eq_nil_iff] at hpresent
      exact .inl ⟨hpresent, rfl⟩
    | cons entry entries =>
      have hsome : findings.fairness.present ≠ [] := by simp [hpresent]
      rw [ne_eq, Fairness.present_eq_nil_iff, Bool.not_eq_false] at hsome
      exact .inr ⟨hsome, _, rfl, rfl⟩
  | sections =>
    unfold design
    rcases sectionComparison_cases findings.sections with ⟨hrows, h⟩ | ⟨hrows, comparison, h, _⟩
    · rw [Series.positive_rows_eq_nil_iff] at hrows
      exact .inl ⟨hrows, by rw [h]; rfl⟩
    · rw [ne_eq, Series.positive_rows_eq_nil_iff, Bool.not_eq_false] at hrows
      exact .inr ⟨hrows, _, by rw [h]; rfl, rfl⟩

theorem layOut_of_map_compare {result : Except Event Comparison} {comparison : Comparison}
    {path : Path} {chart : LineChart} (hresult : result = .ok comparison)
    (h : result.map (presentation.compare path) = .ok (.lines chart)) :
    comparison.layOut presentation.settings presentation.wording path = chart := by
  rw [hresult] at h
  exact Chart.lines.inj (Except.ok.inj h)

theorem not_map_compare_of_error {result : Except Event Comparison} {event : Event} {path : Path}
    {chart : Chart} (hresult : result = .error event) :
    result.map (presentation.compare path) ≠ .ok chart := by
  rw [hresult]
  exact nofun

theorem exists_shows_of_design {chart : LineChart}
    (h : presentation.design findings kind explicit = .ok (.lines chart)) :
    ∃ comparison : Comparison,
      comparison.Shows (findings.rowsFor kind) (valueFor kind (findings.rowsFor kind)) ∧
      comparison.ideal = (if kind = .scalability then some 1 else none) ∧
      comparison.layOut presentation.settings presentation.wording
        (presentation.destination kind explicit) = chart := by
  cases kind with
  | throughput =>
    rcases throughputComparison_cases findings.throughput with
      ⟨_, hresult⟩ | ⟨_, comparison, hresult, hshows, hideal⟩
    · exact absurd h (not_map_compare_of_error hresult)
    · exact ⟨comparison, hshows, hideal, layOut_of_map_compare hresult h⟩
  | scalability =>
    rcases scalabilityComparison_cases findings.throughput with
      ⟨_, hresult⟩ | ⟨first, rest, hrows, ⟨_, hresult⟩ | ⟨_, comparison, hresult, hshows, hideal⟩⟩
    · exact absurd h (not_map_compare_of_error hresult)
    · exact absurd h (not_map_compare_of_error hresult)
    · have hvalue : valueFor .scalability (findings.rowsFor .scalability) =
          Contender.relativeValue first := by
        change valueFor .scalability findings.throughput.rows = _
        rw [hrows]
        rfl
      rw [hvalue]
      exact ⟨comparison, hshows, hideal, layOut_of_map_compare hresult h⟩
  | fairness =>
    unfold design at h
    dsimp only at h
    split at h
    · contradiction
    · exact absurd (Except.ok.inj h) nofun
  | sections =>
    rcases sectionComparison_cases findings.sections with
      ⟨_, hresult⟩ | ⟨_, comparison, hresult, hshows, hideal⟩
    · exact absurd h (not_map_compare_of_error hresult)
    · exact ⟨comparison, hshows, hideal, layOut_of_map_compare hresult h⟩

/-- The lines of a chart that is designed. Each contender has a point for every row that is kept,
in the order of the report, at the row's own key and with the row's own value; scalability divides
it by the contender's value in the first row. There is no other line but the level of the ideal.
The rows with a positive key are found by their positions in columns of one length. -/
theorem curves_of_design {chart : LineChart}
    (h : presentation.design findings kind explicit = .ok (.lines chart)) :
    let rows := findings.rowsFor kind
    let sections := findings.sections
    chart.curves.map Curve.points =
        Contender.all.map (fun contender =>
          rows.map fun row => ⟨row.key.toFloat, valueFor kind rows contender row⟩) ++
        (if kind = .scalability then [Comparison.levelOver rows 1] else []) ∧
      chart.markers.map Markers.count = Contender.all.map (fun _ => rows.length) ∧
      sections.positions.map (fun i => sections.keys[i]?) =
        (findings.rowsFor .sections).map (fun row => some row.key) ∧
      sections.positions.map (fun i => sections.candidate[i]?) =
        (findings.rowsFor .sections).map (fun row => some row.candidate) ∧
      sections.positions.map (fun i => sections.reference[i]?) =
        (findings.rowsFor .sections).map (fun row => some row.reference) := by
  intro rows sections
  obtain ⟨comparison, hshows, hideal, hchart⟩ := exists_shows_of_design h
  obtain ⟨hcurves, hmarkers⟩ := hshows.layOut presentation.settings presentation.wording
    (presentation.destination kind explicit)
  rw [hchart] at hcurves hmarkers
  have hlevel : comparison.ideal.toList.map (Comparison.levelOver rows) =
      if kind = .scalability then [Comparison.levelOver rows 1] else [] := by
    rw [hideal]
    split <;> rfl
  rw [hlevel] at hcurves
  exact ⟨hcurves, hmarkers, sections.map_positions Row.key, sections.map_positions Row.candidate,
    sections.map_positions Row.reference⟩

/-- Rows with a key of zero, in front and in between. -/
theorem curves_of_design_positive_keys :
    let findings : Findings :=
      { sections := ⟨[⟨0, 9, 8⟩, ⟨100, 450.2, 430.1⟩, ⟨0, 7, 6⟩, ⟨10, -1, 0⟩]⟩ }
    let comparison : Comparison := {
      title := "Performance vs Critical Section Size"
      keyTitle := "Critical Section Size (ns, log scale)"
      valueTitle := "Throughput (K ops/sec)"
      scale := .logarithmic
      keys := [(100 : UInt64).toFloat, (10 : UInt64).toFloat]
      candidate := [450.2, -1]
      reference := [430.1, 0] }
    let chart := comparison.layOut {} {} ⟨"sizes.png"⟩
    design {} findings .sections (some ⟨"sizes.png"⟩) = .ok (.lines chart) ∧
      chart.curves.map Curve.points =
        [[⟨(100 : UInt64).toFloat, 450.2⟩, ⟨(10 : UInt64).toFloat, -1⟩],
          [⟨(100 : UInt64).toFloat, 430.1⟩, ⟨(10 : UInt64).toFloat, 0⟩]] ∧
      chart.markers.map Markers.count = [2, 2] ∧
      findings.sections.positions = [1, 3] := by
  intro findings comparison chart
  have hdesign : design {} findings .sections (some ⟨"sizes.png"⟩) = .ok (.lines chart) := rfl
  have h := curves_of_design hdesign
  exact ⟨hdesign, h.1, h.2.1, by decide⟩

end Presentation

end ContentionCharts
