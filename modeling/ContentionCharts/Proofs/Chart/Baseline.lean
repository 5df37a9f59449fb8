import ContentionCharts.Proofs.Chart.Design
import ContentionCharts.Proofs.Number.Quotient

/-!
What scalability is measured against. A column is divided by its first value, which itself becomes
exactly one if it is finite; so both lines of the chart are divided by the values of the first row.
That is a row with the fewest threads if no other row has fewer, and else it is not.
-/
namespace ContentionCharts

open ContentionCharts.Report ContentionCharts.Table ContentionCharts.Number

/-- There is no answer without a first value or with a first value of zero, of either sign. Else
every value is divided by the first one, and the first one becomes exactly one if it is finite, be
it as small or as large as it may; over itself an infinity or a NaN is NaN. -/
theorem relativeToFirst_law (values : List Float) :
    (relativeToFirst values = none ↔ values = [] ∨ ∃ first ∈ values.head?, isZero first) ∧
    ∀ first ∈ values.head?, isZero first = false →
      ∃ scaled, relativeToFirst values = some scaled ∧ scaled.length = values.length ∧
        (∀ i : Nat, scaled[i]? = values[i]?.map (· / first)) ∧
        scaled.head? = some (if first.isFinite then 1 else notANumber) := by
  cases values with
  | nil => exact ⟨iff_of_true rfl (.inl rfl), nofun⟩
  | cons first rest =>
    rw [relativeToFirst_cons]
    constructor
    · cases hzero : isZero first with
      | true => exact iff_of_true rfl (.inr ⟨first, rfl, hzero⟩)
      | false =>
        refine iff_of_false nofun ?_
        rintro (hnil | ⟨_, hfirst, hfirstZero⟩)
        · contradiction
        · cases hfirst
          rw [hzero] at hfirstZero
          contradiction
    · rintro _ hfirst hzero
      cases hfirst
      rw [hzero]
      refine ⟨_, rfl, List.length_map _, fun i => List.getElem?_map, ?_⟩
      rw [List.map_cons, List.head?_cons, div_self_eq hzero]

/-- The least double above zero as the first value. -/
theorem relativeToFirst_law_subnormal :
    let least := Float.ofBits 1
    ∃ scaled, relativeToFirst [least, -2, notANumber] = some scaled ∧ scaled.length = 3 ∧
      scaled[1]? = some (-2 / least) ∧ scaled.head? = some 1 := by
  intro least
  have hzero : isZero least = false := by decide
  obtain ⟨scaled, hscaled, hlength, hvalues, hone⟩ :=
    (relativeToFirst_law [least, -2, notANumber]).2 least rfl hzero
  have hfinite : least.isFinite := by decide
  rw [if_pos hfinite] at hone
  exact ⟨scaled, hscaled, hlength, hvalues 1, hone⟩

/-- A first value that is read from `inf` does not become one. -/
theorem relativeToFirst_infinite :
    ¬ ∀ (token : List Char) (first : Float) (rest : List Float),
      real? token = some first → isZero first = false →
      ∃ scaled, relativeToFirst (first :: rest) = some scaled ∧ scaled.head? = some 1 := by
  intro h
  obtain ⟨scaled, hscaled, hone⟩ := h "inf".toList infinity [] rfl (by decide)
  have hzero : isZero infinity = false := by decide
  rw [relativeToFirst_cons, hzero] at hscaled
  cases hscaled
  rw [List.map_cons, List.head?_cons, Option.some.injEq, div_self_eq_one_iff hzero] at hone
  revert hone
  decide

def Report.Series.Smallest (series : Series) (row : Row) : Prop :=
  row ∈ series.rows ∧ ∀ other ∈ series.rows, row.key ≤ other.key

/-- The line of each contender has its values divided by the one in its base row, and the level of
the ideal is one. -/
def LineChart.MeasuredAgainst (chart : LineChart) (rows : List Row) (base : Contender → Row) :
    Prop :=
  chart.curves.map Curve.points =
    Contender.all.map (fun contender =>
      pointsOf rows (contender.relativeValue (base contender))) ++ [Comparison.levelOver rows 1]

theorem Report.Series.smallest_of_cons {series : Series} {first : Row} {rest : List Row}
    (hrows : series.rows = first :: rest) :
    series.Smallest first ↔ ∀ row ∈ rest, first.key ≤ row.key := by
  unfold Smallest
  rw [hrows, List.forall_mem_cons]
  exact ⟨fun h => h.2.2, fun h => ⟨List.mem_cons_self, UInt64.le_refl _, h⟩⟩

theorem valueTitle_of_scalabilityComparison {series : Series} {comparison : Comparison}
    (h : scalabilityComparison series = .ok comparison) :
    comparison.valueTitle = "Normalized Throughput (vs 1 thread)" := by
  unfold scalabilityComparison at h
  split at h
  · contradiction
  · split at h
    · cases h
      rfl
    · contradiction

theorem Report.Contender.relativeValue_self {first : Row} (hzero : first.hasZero = false)
    {contender : Contender} (hfinite : (contender.value first).isFinite) :
    contender.relativeValue first first = 1 := by
  unfold Row.hasZero at hzero
  rw [Bool.or_eq_false_iff] at hzero
  unfold relativeValue
  cases contender with
  | candidate => exact (div_self_eq_one_iff hzero.1).mpr hfinite
  | reference => exact (div_self_eq_one_iff hzero.2).mpr hfinite

namespace Presentation

variable {presentation : Presentation} {findings : Findings} {explicit : Option Path}

/-- Scalability is measured against the first row, and this is a row with the smallest key exactly
if no row below it has a smaller one, whatever the order of these. -/
theorem measured_against_first {chart : LineChart}
    (h : presentation.design findings .scalability explicit = .ok (.lines chart)) :
    ∃ first rest, findings.throughput.rows = first :: rest ∧
      chart.MeasuredAgainst findings.throughput.rows (fun _ => first) ∧
      chart.valueTitle = "Normalized Throughput (vs 1 thread)" ∧
      (findings.throughput.Smallest first ↔ ∀ row ∈ rest, first.key ≤ row.key) ∧
      ∀ contender : Contender, (contender.value first).isFinite →
        contender.relativeValue first first = 1 := by
  rcases scalabilityComparison_cases findings.throughput with
    ⟨_, hresult⟩ | ⟨first, rest, hrows, ⟨_, hresult⟩ | ⟨hzero, comparison, hresult, hshows, hideal⟩⟩
  · exact absurd h (not_map_compare_of_error hresult)
  · exact absurd h (not_map_compare_of_error hresult)
  · have hchart := layOut_of_map_compare hresult h
    have hcurves := (hshows.layOut presentation.settings presentation.wording
      (presentation.destination .scalability explicit)).1
    rw [hchart, hideal] at hcurves
    have htitle : chart.valueTitle = comparison.valueTitle := by
      rw [← hchart]
      rfl
    refine ⟨first, rest, hrows, hcurves, ?title, Series.smallest_of_cons hrows, ?one⟩
    case title => rw [htitle, valueTitle_of_scalabilityComparison hresult]
    case one => exact fun contender hfinite => Contender.relativeValue_self hzero hfinite

/-- The fewest threads first, the others in no order. -/
theorem measured_against_first_smallest :
    let findings : Findings := { throughput := ⟨[⟨1, 4, 2⟩, ⟨8, 5, 3⟩, ⟨2, 3, 1⟩]⟩ }
    ∃ chart, design {} findings .scalability none = .ok (.lines chart) ∧
      chart.MeasuredAgainst findings.throughput.rows (fun _ => ⟨1, 4, 2⟩) ∧
      findings.throughput.Smallest ⟨1, 4, 2⟩ := by
  intro findings
  obtain ⟨chart, hdesign⟩ :
      ∃ chart, design {} findings .scalability none = .ok (.lines chart) := ⟨_, rfl⟩
  obtain ⟨first, rest, hrows, hmeasured, _, hsmallest, _⟩ := measured_against_first hdesign
  cases hrows
  exact ⟨chart, hdesign, hmeasured, hsmallest.mpr (by decide)⟩

/-- Two threads in the first row, one in the second: the divisors are those for two. -/
theorem measured_against_larger_key :
    ¬ ∀ (presentation : Presentation) (findings : Findings) (explicit : Option Path)
        (chart : LineChart),
      presentation.design findings .scalability explicit = .ok (.lines chart) →
      ∃ base, (∀ contender, findings.throughput.Smallest (base contender)) ∧
        chart.MeasuredAgainst findings.throughput.rows base := by
  intro h
  obtain ⟨base, hsmallest, hmeasured⟩ :=
    h {} { throughput := ⟨[⟨2, 2, 2⟩, ⟨1, 4, 4⟩]⟩ } none _ rfl
  have hcandidate : base .candidate = ⟨1, 4, 4⟩ := by
    obtain ⟨hmem, hleast⟩ := hsmallest .candidate
    rcases List.mem_cons.mp hmem with hfirst | hrest
    · have hless := hleast ⟨1, 4, 4⟩ (List.mem_cons_of_mem _ List.mem_cons_self)
      rw [hfirst] at hless
      exact absurd hless (by decide)
    · exact List.mem_singleton.mp hrest
  have hheight := congrArg (fun curves : List (List Point) =>
    (curves.head?.bind List.head?).map Point.y) hmeasured
  change some ((2 : Float) / 2) = some (2 / (base .candidate).candidate) at hheight
  rw [hcandidate] at hheight
  revert hheight
  decide

end Presentation

end ContentionCharts
