import ContentionCharts.Proofs.Chart.Axis
import ContentionCharts.Proofs.Chart.Design
import Mathlib.Data.List.Forall2

/-!
The axes of a line chart that is designed. They contain every point that is drawn, whatever values
and keys a series has, and the value axis contains the level of the ideal. Where no row stands out
as the first one, neither the order of the rows nor a value that is not finite changes a range.
-/
namespace ContentionCharts

open ContentionCharts.Report ContentionCharts.Table ContentionCharts.Number

/-- Every point that is drawn, the ends of the level line included. -/
def LineChart.points (chart : LineChart) : List Point :=
  chart.curves.flatMap Curve.points

def ChartKind.scale : ChartKind → Scale
  | .throughput | .scalability | .fairness => .linear
  | .sections => .logarithmic

def Report.Findings.series (findings : Findings) : ChartKind → Series
  | .throughput | .scalability => findings.throughput
  | .fairness => .empty
  | .sections => findings.sections

/-- A value that is not finite may stand for any other such value, and zero may stand for it. -/
inductive Replacement (x : Float) : Float → Prop where
  | same : Replacement x x
  | notFinite {y : Float} (hx : x.isFinite = false) (hy : y.isFinite = false) : Replacement x y
  | zero {y : Float} (hx : x.isFinite = false) (hy : isZero y) : Replacement x y

structure Table.Row.Alike (row other : Row) : Prop where
  key : row.key = other.key
  values : ∀ contender : Contender, Replacement (contender.value row) (contender.value other)

def Report.Series.Rearranged (series other : Series) : Prop :=
  ∃ rows, series.rows.Perm rows ∧ List.Forall₂ Row.Alike rows other.rows

theorem rank_of_isZero {x : Float} (h : isZero x) : rank x = 0 := by
  rw [isZero, Bool.or_eq_true, beq_iff_eq, beq_iff_eq] at h
  unfold rank
  rcases h with hzero | hnegative
  · rw [hzero]
    decide
  · rw [hnegative]
    decide

theorem Replacement.eq_of_raised {x y : Float} (h : Replacement x y)
    (hraised : IsRaised x ∨ IsRaised y) : x = y := by
  cases h with
  | same => rfl
  | notFinite hx hy =>
    rcases hraised with hraised | hraised
    · exact absurd hraised.isFinite (Bool.eq_false_iff.mp hx)
    · exact absurd hraised.isFinite (Bool.eq_false_iff.mp hy)
  | zero hx hy =>
    rcases hraised with hraised | hraised
    · exact absurd hraised.isFinite (Bool.eq_false_iff.mp hx)
    · exact absurd (rank_of_isZero hy) (Int.ne_of_gt hraised.rank_pos)

structure SameRows (rows others : List Row) : Prop where
  forth : ∀ row ∈ rows, ∃ other ∈ others, row.Alike other
  back : ∀ other ∈ others, ∃ row ∈ rows, row.Alike other

theorem sameRows_of_forall₂ {rows others : List Row} (h : List.Forall₂ Row.Alike rows others) :
    SameRows rows others := by
  induction h with
  | nil => exact ⟨nofun, nofun⟩
  | @cons row other rows others hhead _ ih =>
    refine ⟨List.forall_mem_cons.mpr ⟨⟨other, List.mem_cons_self, hhead⟩, fun row hrow => ?_⟩,
      List.forall_mem_cons.mpr ⟨⟨row, List.mem_cons_self, hhead⟩, fun other hother => ?_⟩⟩
    · obtain ⟨partner, hpartner, halike⟩ := ih.forth row hrow
      exact ⟨partner, List.mem_cons_of_mem _ hpartner, halike⟩
    · obtain ⟨partner, hpartner, halike⟩ := ih.back other hother
      exact ⟨partner, List.mem_cons_of_mem _ hpartner, halike⟩

theorem Report.Series.Rearranged.sameRows {series other : Series} (h : series.Rearranged other) :
    SameRows series.rows other.rows := by
  obtain ⟨rows, hperm, halike⟩ := h
  have hsame := sameRows_of_forall₂ halike
  exact ⟨fun row hrow => hsame.forth row (hperm.mem_iff.mp hrow), fun other hother =>
    (hsame.back other hother).imp fun _ h => ⟨hperm.mem_iff.mpr h.1, h.2⟩⟩

section

variable {rows others : List Row}

theorem SameRows.filter_key (h : SameRows rows others) (keep : UInt64 → Bool) :
    SameRows (rows.filter fun row => keep row.key) (others.filter fun row => keep row.key) where
  forth row hrow := by
    obtain ⟨hmem, hkeep⟩ := List.mem_filter.mp hrow
    obtain ⟨other, hother, halike⟩ := h.forth row hmem
    exact ⟨other, List.mem_filter.mpr ⟨hother, halike.key ▸ hkeep⟩, halike⟩
  back other hother := by
    obtain ⟨hmem, hkeep⟩ := List.mem_filter.mp hother
    obtain ⟨row, hrow, halike⟩ := h.back other hmem
    exact ⟨row, List.mem_filter.mpr ⟨hrow, halike.key ▸ hkeep⟩, halike⟩

theorem SameRows.ne_nil (h : SameRows rows others) (hne : rows ≠ []) : others ≠ [] := by
  obtain ⟨row, hrow⟩ := List.exists_mem_of_ne_nil rows hne
  obtain ⟨other, hother, _⟩ := h.forth row hrow
  exact List.ne_nil_of_mem hother

theorem SameRows.mem_map_iff {α : Type} {column : Row → α} {x : α} (h : SameRows rows others)
    (heq : ∀ {row other}, row.Alike other → column row = x ∨ column other = x →
      column row = column other) :
    x ∈ rows.map column ↔ x ∈ others.map column := by
  rw [List.mem_map, List.mem_map]
  constructor
  · rintro ⟨row, hrow, hx⟩
    obtain ⟨other, hother, halike⟩ := h.forth row hrow
    exact ⟨other, hother, (heq halike (.inl hx)).symm.trans hx⟩
  · rintro ⟨other, hother, hx⟩
    obtain ⟨row, hrow, halike⟩ := h.back other hother
    exact ⟨row, hrow, (heq halike (.inr hx)).trans hx⟩

end

namespace Presentation

variable {presentation : Presentation} {findings : Findings} {kind : ChartKind}
  {explicit : Option Path} {chart : LineChart}

def keysFor (findings : Findings) (kind : ChartKind) : List Float :=
  (findings.rowsFor kind).map fun row => row.key.toFloat

def valuesFor (findings : Findings) (kind : ChartKind) : List Float :=
  (findings.rowsFor kind).map (valueFor kind (findings.rowsFor kind) .candidate) ++
    (findings.rowsFor kind).map (valueFor kind (findings.rowsFor kind) .reference) ++
    if kind = .scalability then [1] else []

theorem supports_of_design {chart : Chart}
    (h : presentation.design findings kind explicit = .ok chart) :
    findings.supports kind = true := by
  rcases presentation.design_cases findings kind explicit with ⟨_, herror⟩ | ⟨hsupports, _⟩
  · rw [herror] at h
    contradiction
  · exact hsupports

theorem ne_fairness_of_design
    (h : presentation.design findings kind explicit = .ok (.lines chart)) : kind ≠ .fairness := by
  rintro rfl
  unfold design at h
  dsimp only at h
  split at h
  · contradiction
  · exact absurd (Except.ok.inj h) nofun

theorem supports_iff (hfairness : kind ≠ .fairness) (hscalability : kind ≠ .scalability) :
    findings.supports kind = true ↔ findings.rowsFor kind ≠ [] := by
  cases kind with
  | throughput => simp [Findings.supports, Findings.rowsFor]
  | scalability => contradiction
  | fairness => contradiction
  | sections =>
    change _ ↔ findings.sections.positive.rows ≠ []
    rw [ne_eq, Series.positive_rows_eq_nil_iff, Bool.not_eq_false]
    rfl

theorem rowsFor_ne_nil (h : presentation.design findings kind explicit = .ok (.lines chart)) :
    findings.rowsFor kind ≠ [] := by
  have hsupports := supports_of_design h
  by_cases hscalability : kind = .scalability
  · subst hscalability
    intro hrows
    unfold Findings.rowsFor at hrows
    unfold Findings.supports at hsupports
    dsimp only at hrows hsupports
    rw [hrows] at hsupports
    contradiction
  · exact (supports_iff (ne_fairness_of_design h) hscalability).mp hsupports

theorem exists_lines_of_supports (hfairness : kind ≠ .fairness)
    (h : findings.supports kind = true) :
    ∃ chart, presentation.design findings kind explicit = .ok (.lines chart) := by
  obtain ⟨chart, hchart, _⟩ :=
    ((presentation.design_cases findings kind explicit).resolve_left fun hnot =>
      Bool.noConfusion (h.symm.trans hnot.1)).2
  have hlines {result : Except Event Comparison} {path : Path}
      (hresult : result.map (presentation.compare path) = .ok chart) :
      ∃ lines, chart = .lines lines := by
    cases result with
    | error => contradiction
    | ok comparison => exact ⟨_, (Except.ok.inj hresult).symm⟩
  obtain ⟨lines, rfl⟩ : ∃ lines, chart = .lines lines := by
    cases kind with
    | throughput => exact hlines hchart
    | scalability => exact hlines hchart
    | fairness => contradiction
    | sections => exact hlines hchart
  exact ⟨lines, hchart⟩

theorem scale_of_map_compare {result : Except Event Comparison} {path : Path} {scale : Scale}
    (h : result.map (presentation.compare path) = .ok (.lines chart))
    (hscale : ∀ comparison, result = .ok comparison → comparison.scale = scale) :
    chart.scale = scale := by
  cases result with
  | error => contradiction
  | ok comparison =>
    cases h
    exact hscale comparison rfl

theorem scale_of_design (h : presentation.design findings kind explicit = .ok (.lines chart)) :
    chart.scale = kind.scale := by
  cases kind with
  | throughput =>
    refine scale_of_map_compare h fun comparison hresult => ?_
    unfold throughputComparison at hresult
    split at hresult
    · contradiction
    · cases hresult
      rfl
  | scalability =>
    refine scale_of_map_compare h fun comparison hresult => ?_
    unfold scalabilityComparison at hresult
    split at hresult
    · contradiction
    · split at hresult
      · cases hresult
        rfl
      · contradiction
  | fairness => exact absurd rfl (ne_fairness_of_design h)
  | sections =>
    refine scale_of_map_compare h fun comparison hresult => ?_
    unfold sectionComparison at hresult
    dsimp only at hresult
    split at hresult
    · contradiction
    · cases hresult
      rfl

theorem ranges_of_design (h : presentation.design findings kind explicit = .ok (.lines chart)) :
    chart.keyRange = kind.scale.range (keysFor findings kind) ∧
      chart.valueRange = valueRange (valuesFor findings kind) ∧
      chart.curves.map Curve.points =
        Contender.all.map (fun contender => pointsOf (findings.rowsFor kind)
          (valueFor kind (findings.rowsFor kind) contender)) ++
        (if kind = .scalability then [Comparison.levelOver (findings.rowsFor kind) 1] else []) := by
  have hscale := scale_of_design h
  obtain ⟨comparison, hshows, hideal, hchart⟩ := exists_shows_of_design h
  obtain ⟨hcurves, _⟩ := hshows.layOut presentation.settings presentation.wording
    (presentation.destination kind explicit)
  have hcandidate := hshows.values .candidate
  have hreference := hshows.values .reference
  rw [hchart, hideal] at hcurves
  subst hchart
  refine ⟨?_, ?_, ?_⟩
  · rw [← hscale, keysFor, ← hshows.keys]
    rfl
  · rw [valuesFor, ← hcandidate, ← hreference]
    change valueRange (comparison.candidate ++ comparison.reference ++ comparison.ideal.toList) = _
    rw [hideal]
    split <;> rfl
  · rw [hcurves]
    split <;> rfl

theorem isPosition_of_mem_keysFor {x : Float} (hx : x ∈ keysFor findings kind) :
    IsPosition x := by
  obtain ⟨row, _, rfl⟩ := List.mem_map.mp hx
  exact isPosition_toFloat row.key

theorem keysFor_ne_nil (h : presentation.design findings kind explicit = .ok (.lines chart)) :
    keysFor findings kind ≠ [] := by
  intro hnil
  exact rowsFor_ne_nil h (List.map_eq_nil_iff.mp hnil)

theorem mem_points_iff (h : presentation.design findings kind explicit = .ok (.lines chart))
    {p : Point} :
    p ∈ chart.points ↔
      (∃ contender : Contender, p ∈ pointsOf (findings.rowsFor kind)
        (valueFor kind (findings.rowsFor kind) contender)) ∨
      kind = .scalability ∧ p ∈ Comparison.levelOver (findings.rowsFor kind) 1 := by
  have hcurves := (ranges_of_design h).2.2
  have hcontender (contender : Contender) : contender ∈ Contender.all := by
    cases contender <;> decide
  rw [LineChart.points, List.flatMap_def, hcurves, List.flatten_append, List.mem_append,
    ← List.flatMap_def, List.mem_flatMap]
  refine or_congr (exists_congr fun contender => and_iff_right (hcontender contender)) ?_
  by_cases hkind : kind = .scalability
  · rw [if_pos hkind, List.flatten_singleton]
    exact (and_iff_right hkind).symm
  · rw [if_neg hkind]
    exact iff_of_false nofun fun hlevel => hkind hlevel.1

theorem mem_valuesFor_iff {y : Float} :
    y ∈ valuesFor findings kind ↔
      (∃ contender : Contender,
        y ∈ (findings.rowsFor kind).map (valueFor kind (findings.rowsFor kind) contender)) ∨
      kind = .scalability ∧ y = 1 := by
  rw [valuesFor, List.mem_append, List.mem_append]
  refine or_congr ⟨?_, ?_⟩ ?_
  · rintro (hcandidate | hreference)
    · exact ⟨.candidate, hcandidate⟩
    · exact ⟨.reference, hreference⟩
  · rintro ⟨contender, hy⟩
    cases contender with
    | candidate => exact .inl hy
    | reference => exact .inr hy
  · by_cases hkind : kind = .scalability
    · rw [if_pos hkind, List.mem_singleton]
      exact (and_iff_right hkind).symm
    · rw [if_neg hkind]
      exact iff_of_false nofun fun hlevel => hkind hlevel.1

theorem mem_of_mem_points (h : presentation.design findings kind explicit = .ok (.lines chart))
    {p : Point} (hp : p ∈ chart.points) :
    p.x ∈ keysFor findings kind ∧ p.y ∈ valuesFor findings kind := by
  rw [mem_valuesFor_iff]
  rcases (mem_points_iff h).mp hp with ⟨contender, hp⟩ | ⟨hkind, hp⟩
  · obtain ⟨row, hrow, rfl⟩ := List.mem_map.mp hp
    exact ⟨List.mem_map_of_mem hrow, .inl ⟨contender, List.mem_map_of_mem hrow⟩⟩
  · have hposition (x : Float) : x ∈ keysFor findings kind → IsPosition x :=
      isPosition_of_mem_keysFor
    rcases List.mem_pair.mp hp with rfl | rfl
    · exact ⟨(foremost_lowest hposition (keysFor_ne_nil h)).mem, .inr ⟨hkind, rfl⟩⟩
    · exact ⟨(foremost_highest hposition (keysFor_ne_nil h)).mem, .inr ⟨hkind, rfl⟩⟩

theorem exists_point (h : presentation.design findings kind explicit = .ok (.lines chart))
    {y : Float} (hy : y ∈ valuesFor findings kind) : ∃ p ∈ chart.points, p.y = y := by
  rcases mem_valuesFor_iff.mp hy with ⟨contender, hy⟩ | ⟨hkind, rfl⟩
  · obtain ⟨row, hrow, rfl⟩ := List.mem_map.mp hy
    exact ⟨_, (mem_points_iff h).mpr (.inl ⟨contender, List.mem_map_of_mem hrow⟩), rfl⟩
  · exact ⟨_, (mem_points_iff h).mpr (.inr ⟨hkind, List.mem_cons_self⟩), rfl⟩

theorem keyRange_start_pos
    (h : presentation.design findings .sections explicit = .ok (.lines chart)) :
    0 < chart.keyRange.start := by
  rw [(ranges_of_design h).1]
  refine logarithmicRange_start_pos (fun x => isPosition_of_mem_keysFor) (keysFor_ne_nil h) ?_
  intro x hx
  obtain ⟨row, hrow, rfl⟩ := List.mem_map.mp hx
  have hpos : 0 < row.key := of_decide_eq_true (List.mem_filter.mp hrow).2
  exact Int.lt_of_lt_of_le (by decide) ((rank_toFloat_bounds row.key).2 hpos)

theorem valueFor_of_ne (hkind : kind ≠ .scalability) (rows : List Row) (contender : Contender) :
    valueFor kind rows contender = contender.value := by
  cases kind with
  | throughput => rfl
  | scalability => contradiction
  | fairness => rfl
  | sections => rfl

theorem sameRows_rowsFor {other : Findings}
    (h : (findings.series kind).Rearranged (other.series kind)) :
    SameRows (findings.rowsFor kind) (other.rowsFor kind) := by
  cases kind with
  | throughput => exact h.sameRows
  | scalability => exact h.sameRows
  | fairness => exact ⟨nofun, nofun⟩
  | sections => exact h.sameRows.filter_key fun key => 0 < key

/-- Throughput and sections: the same ranges for the same rows, whatever their order. -/
theorem exists_ranges_eq (h : presentation.design findings kind explicit = .ok (.lines chart))
    (hkind : kind ≠ .scalability) {other : Findings} (another : Option Path)
    (hsame : SameRows (findings.rowsFor kind) (other.rowsFor kind)) :
    ∃ second, presentation.design other kind another = .ok (.lines second) ∧
      second.keyRange = chart.keyRange ∧ second.valueRange = chart.valueRange := by
  have hfairness := ne_fairness_of_design h
  have hsupports := (supports_iff hfairness hkind).mpr (hsame.ne_nil (rowsFor_ne_nil h))
  obtain ⟨second, hsecond⟩ := exists_lines_of_supports hfairness hsupports
  refine ⟨second, hsecond, ?_, ?_⟩
  · rw [(ranges_of_design h).1, (ranges_of_design hsecond).1]
    symm
    refine Scale.range_congr (fun x => isPosition_of_mem_keysFor) (keysFor_ne_nil h) _ fun x => ?_
    exact hsame.mem_map_iff fun halike _ => congrArg UInt64.toFloat halike.key
  · rw [(ranges_of_design h).2.1, (ranges_of_design hsecond).2.1]
    symm
    apply valueRange_congr
    intro y hraised
    have hcolumn (contender : Contender) :
        y ∈ (findings.rowsFor kind).map (valueFor kind (findings.rowsFor kind) contender) ↔
          y ∈ (other.rowsFor kind).map (valueFor kind (other.rowsFor kind) contender) := by
      rw [valueFor_of_ne hkind, valueFor_of_ne hkind]
      refine hsame.mem_map_iff fun halike hy => (halike.values contender).eq_of_raised ?_
      rcases hy with hrow | hother
      · exact .inl (hrow.symm ▸ hraised)
      · exact .inr (hother.symm ▸ hraised)
    rw [valuesFor, valuesFor, if_neg hkind, List.append_nil, List.append_nil, List.mem_append,
      List.mem_append, hcolumn .candidate, hcolumn .reference]

/-- The axes of a line chart. -/
theorem axes_contain_points
    (h : presentation.design findings kind explicit = .ok (.lines chart)) :
    (∀ p ∈ chart.points, chart.keyRange.start ≤ p.x ∧ p.x ≤ chart.keyRange.stop) ∧
      chart.valueRange.start = 0 ∧ 0 < chart.valueRange.stop ∧
      (∀ p ∈ chart.points, p.y.isFinite → p.y ≤ chart.valueRange.stop) ∧
      (kind = .scalability → 1 ≤ chart.valueRange.stop) ∧
      ((∀ p ∈ chart.points, ¬IsRaised p.y) ∧ chart.valueRange.stop = 1 ∨
        ∃ top, IsTop top (chart.points.map Point.y) ∧ chart.valueRange.stop = top * 1.1) ∧
      (kind ≠ .scalability → ∀ (other : Findings) (another : Option Path),
        (findings.series kind).Rearranged (other.series kind) →
        ∃ second, presentation.design other kind another = .ok (.lines second) ∧
          second.keyRange = chart.keyRange ∧ second.valueRange = chart.valueRange) ∧
      (kind = .sections → chart.scale = .logarithmic ∧ 0 < chart.keyRange.start) := by
  obtain ⟨hkeys, hvalues, _⟩ := ranges_of_design h
  obtain ⟨hstart, hpos, hcontains⟩ := valueRange_contains (valuesFor findings kind)
  rw [← hvalues] at hstart hpos hcontains
  refine ⟨?points, hstart, hpos, ?finite, ?ideal, ?stop, ?rearranged, ?sections⟩
  case points =>
    intro p hp
    rw [hkeys]
    exact kind.scale.range_contains (fun x => isPosition_of_mem_keysFor) (keysFor_ne_nil h)
      (mem_of_mem_points h hp).1
  case finite =>
    intro p hp hfinite
    exact hcontains p.y (mem_of_mem_points h hp).2 hfinite
  case ideal =>
    rintro rfl
    refine hcontains 1 ?_ (by decide)
    exact List.mem_append_right _ (List.mem_singleton_self 1)
  case stop =>
    have hraised (y : Float) : y ∈ valuesFor findings kind ↔ y ∈ chart.points.map Point.y := by
      rw [List.mem_map]
      constructor
      · exact exists_point h
      · rintro ⟨p, hp, rfl⟩
        exact (mem_of_mem_points h hp).2
    rw [hvalues]
    rcases valueRange_cases (valuesFor findings kind) with ⟨hnone, hrange⟩ | ⟨top, htop, hrange⟩
    · exact .inl ⟨fun p hp => hnone p.y (mem_of_mem_points h hp).2, congrArg Range.stop hrange⟩
    · exact .inr ⟨top, htop.of_raised fun y _ => hraised y, congrArg Range.stop hrange⟩
  case rearranged =>
    intro hkind other another hrearranged
    exact exists_ranges_eq h hkind another (sameRows_rowsFor hrearranged)
  case sections =>
    rintro rfl
    exact ⟨scale_of_design h, keyRange_start_pos h⟩

/-- Rows in another order, with an infinity in place of a NaN; one of them has a key of zero. -/
theorem axes_contain_points_rearranged :
    let findings : Findings :=
      { sections := ⟨[⟨0, 9, 8⟩, ⟨10, -1, 0⟩, ⟨100, notANumber, 430.1⟩]⟩ }
    let other : Findings :=
      { sections := ⟨[⟨100, infinity, 430.1⟩, ⟨0, 9, 8⟩, ⟨10, -1, 0⟩]⟩ }
    let comparison : Comparison := {
      title := "Performance vs Critical Section Size"
      keyTitle := "Critical Section Size (ns, log scale)"
      valueTitle := "Throughput (K ops/sec)"
      scale := .logarithmic
      keys := [(10 : UInt64).toFloat, (100 : UInt64).toFloat]
      candidate := [-1, notANumber]
      reference := [0, 430.1] }
    let chart := comparison.layOut {} {} ⟨"sizes.png"⟩
    design {} findings .sections (some ⟨"sizes.png"⟩) = .ok (.lines chart) ∧
      0 < chart.keyRange.start ∧ 430.1 ≤ chart.valueRange.stop ∧
      ∃ second, design {} other .sections none = .ok (.lines second) ∧
        second.keyRange = chart.keyRange ∧ second.valueRange = chart.valueRange := by
  intro findings other comparison chart
  have hdesign : design {} findings .sections (some ⟨"sizes.png"⟩) = .ok (.lines chart) := rfl
  obtain ⟨_, _, _, hfinite, _, _, hrearranged, hsections⟩ := axes_contain_points hdesign
  have hpoint : (⟨(100 : UInt64).toFloat, 430.1⟩ : Point) ∈ chart.points := by
    change _ ∈ [_, _, _, _]
    simp
  have hvalue : (430.1 : Float).isFinite := by decide
  have hbelow : 430.1 ≤ chart.valueRange.stop :=
    hfinite ⟨(100 : UInt64).toFloat, 430.1⟩ hpoint hvalue
  refine ⟨hdesign, (hsections rfl).2, hbelow, ?_⟩
  have hreplaced : Row.Alike ⟨100, notANumber, 430.1⟩ ⟨100, infinity, 430.1⟩ := by
    refine ⟨rfl, fun contender => ?_⟩
    cases contender with
    | candidate => exact .notFinite (by decide) (by decide)
    | reference => exact .same
  have hlike (row : Row) : row.Alike row := ⟨rfl, fun _ => .same⟩
  have hperm : List.Perm findings.sections.rows
      [⟨100, notANumber, 430.1⟩, ⟨0, 9, 8⟩, ⟨10, -1, 0⟩] :=
    @List.perm_append_comm Row [⟨0, 9, 8⟩, ⟨10, -1, 0⟩] [⟨100, notANumber, 430.1⟩]
  refine hrearranged nofun other none ⟨_, hperm, ?_⟩
  exact .cons hreplaced (.cons (hlike _) (.cons (hlike _) .nil))

end Presentation

end ContentionCharts
