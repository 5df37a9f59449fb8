import ContentionCharts.Chart.Design
import ContentionCharts.Proofs.Number.Zero

/-!
Comparisons and the rows behind them. A comparison holds its keys and the values of both contenders
in separate lists; each of them is made from the same rows in the same order, so that every point
of a curve belongs to one row and every row has its point.
-/
namespace ContentionCharts

open ContentionCharts.Report ContentionCharts.Table ContentionCharts.Number

def Report.Contender.value : Contender → Row → Float
  | .candidate, row => row.candidate
  | .reference, row => row.reference

def Report.Contender.relativeValue (first : Row) (contender : Contender) (row : Row) : Float :=
  contender.value row / contender.value first

def Table.Row.hasZero (row : Row) : Bool :=
  isZero row.candidate || isZero row.reference

def pointsOf (rows : List Row) (value : Row → Float) : List Point :=
  rows.map fun row => ⟨row.key.toFloat, value row⟩

namespace Comparison

/-- The comparison is about these rows: it has their keys, and for each contender their values. -/
structure Shows (comparison : Comparison) (rows : List Row) (value : Contender → Row → Float) :
    Prop where
  keys : comparison.keys = rows.map fun row => row.key.toFloat
  values : ∀ contender, comparison.values contender = rows.map (value contender)

variable {comparison : Comparison} {rows : List Row} {value : Contender → Row → Float}

theorem shows_columns {series : Series} (keys : comparison.keys = keyPositions series)
    (candidate : comparison.candidate = series.candidate)
    (reference : comparison.reference = series.reference) :
    comparison.Shows series.rows Contender.value where
  keys := by
    rw [keys, keyPositions, Series.keys, List.map_map]
    rfl
  values contender := by
    cases contender with
    | candidate => exact candidate
    | reference => exact reference

theorem Shows.points (h : comparison.Shows rows value) (contender : Contender) :
    comparison.points contender = pointsOf rows (value contender) := by
  unfold Comparison.points plotted pointsOf
  rw [h.keys, h.values, List.zipWith_map, List.zipWith_self]

def levelOver (rows : List Row) (level : Float) : List Point :=
  let keys := rows.map fun row => row.key.toFloat
  [⟨lowest keys, level⟩, ⟨highest keys, level⟩]

theorem Shows.idealPoints (h : comparison.Shows rows value) :
    comparison.idealPoints = levelOver rows := by
  funext level
  unfold Comparison.idealPoints levelOver
  rw [h.keys]

/-- The curve of each contender goes through its values, and every point has a marker. -/
theorem Shows.layOut (h : comparison.Shows rows value) (settings : Settings) (wording : Wording)
    (path : Path) :
    (comparison.layOut settings wording path).curves.map Curve.points =
        Contender.all.map (fun contender => pointsOf rows (value contender)) ++
          comparison.ideal.toList.map (levelOver rows) ∧
      (comparison.layOut settings wording path).markers.map Markers.count =
        Contender.all.map fun _ => rows.length := by
  unfold Comparison.layOut
  constructor
  · rw [List.map_append, List.map_map, List.map_map, ← h.idealPoints]
    simp only [Function.comp_def, h.points]
  · simp only [List.map_map, Function.comp_def, h.points, pointsOf, List.length_map]

end Comparison

/-! What each comparison is made of, or why there is none. -/

theorem throughputComparison_cases (series : Series) :
    series.rows = [] ∧
        throughputComparison series = .error (skipping .debug "No throughput data") ∨
      series.rows ≠ [] ∧ ∃ comparison, throughputComparison series = .ok comparison ∧
        comparison.Shows series.rows Contender.value ∧ comparison.ideal = none := by
  unfold throughputComparison Series.isEmpty
  cases hrows : series.rows with
  | nil => exact .inl ⟨rfl, rfl⟩
  | cons first rest =>
    rw [← hrows]
    refine .inr ⟨by simp [hrows], _, by simp only [hrows]; rfl, ?_, rfl⟩
    exact Comparison.shows_columns rfl rfl rfl

def Report.Series.positive (series : Series) : Series :=
  ⟨series.rows.filter fun row => 0 < row.key⟩

/-- Reading a column at these positions gives the values of the rows that are kept; none of them is
beyond its end. -/
theorem Report.Series.map_positions {α : Type} (series : Series) (column : Row → α) :
    series.positions.map (fun i => (series.rows.map column)[i]?) =
      series.positive.rows.map fun row => some (column row) := by
  have hrange : (List.range series.rows.length).map (series.rows[·]?) = series.rows.map some := by
    apply List.ext_getElem
    · simp
    · intro i hi _
      simp at hi
      simp [hi]
  have htest : (fun i : Nat => series.keys.toArray[i]?.any (0 < ·)) =
      (Option.any fun row : Row => 0 < row.key) ∘ (series.rows[·]?) := by
    funext i
    rw [List.getElem?_toArray, Series.keys, List.getElem?_map, Option.any_map]
    rfl
  calc
    series.positions.map (fun i => (series.rows.map column)[i]?) =
        (series.positions.map (series.rows[·]?)).map (Option.map column) := by
      simp [Function.comp_def]
    _ = ((series.rows.map some).filter (Option.any fun row : Row => 0 < row.key)).map
          (Option.map column) := by
      unfold Series.positions Series.size
      dsimp only
      rw [htest, ← List.filter_map, hrange]
    _ = series.positive.rows.map fun row => some (column row) := by
      simp [Series.positive, List.filter_map, Function.comp_def]

theorem Report.Series.pick_positions {α : Type} (series : Series) (column : Row → α) :
    pick series.positions (series.rows.map column) = series.positive.rows.map column := by
  have hvalues : pick series.positions (series.rows.map column) =
      (series.positions.map fun i => (series.rows.map column)[i]?).filterMap id := by
    unfold pick
    rw [List.filterMap_map]
    exact congrArg (List.filterMap · _) (funext fun _ => List.getElem?_toArray)
  rw [hvalues, series.map_positions, List.filterMap_map]
  exact congrFun List.filterMap_eq_map series.positive.rows

theorem Report.Series.isEmpty_positions (series : Series) :
    series.positions.isEmpty = series.positive.rows.isEmpty := by
  have hkeys := series.map_positions Row.key
  cases hpositions : series.positions with
  | nil =>
    rw [hpositions] at hkeys
    rw [List.map_eq_nil_iff.mp hkeys.symm]
    rfl
  | cons position positions =>
    rw [hpositions] at hkeys
    cases hrows : series.positive.rows with
    | nil =>
      rw [hrows] at hkeys
      contradiction
    | cons => rfl

theorem sectionComparison_cases (series : Series) :
    series.positive.rows = [] ∧
        sectionComparison series = .error (skipping .debug "No critical section data") ∨
      series.positive.rows ≠ [] ∧ ∃ comparison, sectionComparison series = .ok comparison ∧
        comparison.Shows series.positive.rows Contender.value ∧ comparison.ideal = none := by
  unfold sectionComparison
  dsimp only
  rw [series.isEmpty_positions, Series.keys, Series.candidate, Series.reference,
    series.pick_positions, series.pick_positions, series.pick_positions]
  cases hrows : series.positive.rows with
  | nil => exact .inl ⟨rfl, rfl⟩
  | cons first rest =>
    refine .inr ⟨List.cons_ne_nil _ _, _, rfl, ⟨?_, fun contender => ?_⟩, rfl⟩
    · exact List.map_map
    · cases contender <;> rfl

theorem relativeToFirst_cons (first : Float) (rest : List Float) :
    relativeToFirst (first :: rest) =
      if isZero first then none else some ((first :: rest).map (· / first)) := by
  rw [relativeToFirst, beq_zero]

theorem relativeToFirst_map (value : Row → Float) (first : Row) (rest : List Row) :
    relativeToFirst ((first :: rest).map value) =
      if isZero (value first) then none
      else some ((first :: rest).map fun row => value row / value first) := by
  rw [List.map_cons, relativeToFirst_cons, ← List.map_cons, List.map_map]
  rfl

theorem scalabilityComparison_cases (series : Series) :
    series.rows = [] ∧ scalabilityComparison series =
        .error (skipping .debug "No throughput data to normalize") ∨
      ∃ first rest, series.rows = first :: rest ∧
        (first.hasZero = true ∧ scalabilityComparison series = .error (skipping .warn
            "Single thread throughput is zero, skipping scalability plot") ∨
          first.hasZero = false ∧ ∃ comparison, scalabilityComparison series = .ok comparison ∧
            comparison.Shows series.rows (Contender.relativeValue first) ∧
            comparison.ideal = some 1) := by
  unfold scalabilityComparison Series.isEmpty Series.candidate Series.reference
  cases hrows : series.rows with
  | nil => exact .inl ⟨rfl, rfl⟩
  | cons first rest =>
    refine .inr ⟨first, rest, rfl, ?_⟩
    rw [relativeToFirst_map, relativeToFirst_map, Row.hasZero]
    cases hcandidate : isZero first.candidate with
    | true => exact .inl ⟨rfl, rfl⟩
    | false =>
      cases hreference : isZero first.reference with
      | true => exact .inl ⟨rfl, rfl⟩
      | false =>
        refine .inr ⟨rfl, _, rfl, ⟨?_, ?_⟩, rfl⟩
        · rw [← hrows, keyPositions, Series.keys, List.map_map]
          rfl
        · intro contender
          cases contender <;> rfl

end ContentionCharts
