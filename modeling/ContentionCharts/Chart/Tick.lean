import ContentionCharts.Chart.Basic

/-!
The numbers that an axis shows: round ones, at regular steps through its range, and about a dozen at
most. A linear axis has steps of one, two or five times a power of ten, a logarithmic one powers of
ten, and the digits between them if its range is short.
-/
namespace ContentionCharts

/-- What is less than this is taken for an error of rounding. -/
def negligible : Float := Float.ofBits 0x3CB0000000000000

def above (step x : Float) : Float :=
  let rest := x - (x / step).floor * step
  if (rest - step).abs < negligible then 0 else rest

/-- The steps of an axis are found on a grid that is finer by a factor of ten or more. -/
structure Grid where
  step : Float
  grain : Float

namespace Grid

def coarser (grid : Grid) : Grid := ⟨grid.step * 10, grid.grain * 10⟩

def finer (grid : Grid) : Grid := ⟨grid.step / 10, grid.grain / 10⟩

/-- The numbers at regular steps from `base + offset` on, as far as the limit. An offset that has
fallen below the base by an error of rounding is lifted by a grain. -/
def steps (grid : Grid) (base limit : Float) : Nat → Float → List Float
  | 0, _ => []
  | count + 1, offset =>
    if limit - offset - base < -negligible then []
    else
      let lifted :=
        if (offset / grid.grain).round * grid.grain < 0 then offset + grid.grain else offset
      (lifted + base) :: grid.steps base limit count (lifted + grid.step)

end Grid

namespace Range

def spread (range : Range) : Float := range.stop - range.start

def firstMultiple (range : Range) (step : Float) : Float :=
  let multiple := range.start - above step range.start
  if multiple < range.start then multiple + step else multiple

def lastMultiple (range : Range) (step : Float) : Float :=
  range.stop - above step range.stop

def fits (range : Range) (step part : Float) : Bool :=
  let found := range.lastMultiple (step / part) - range.firstMultiple (step / part)
  !(11 < (1 + found / step * part).round)

/-- Steps are made shorter as long as the numbers fit. Each round divides them by ten, so that the
doubles have no room for more rounds than there are. -/
def refine (range : Range) : Nat → Grid → Grid
  | 0, grid => grid
  | rounds + 1, grid =>
    if !range.fits grid.step 2 then grid
    else if !range.fits grid.step 5 then { grid with step := grid.step / 2 }
    else if !range.fits grid.step 10 then { grid with step := grid.step / 5 }
    else range.refine rounds grid.finer

def grid (range : Range) : Grid :=
  let power := Float.pow 10 (range.spread.log / (10 : Float).log).floor
  let decade : Grid := ⟨power, power / 10⟩
  range.refine 700 (if 11 < 1 + (range.spread / power).floor then decade.coarser else decade)

def linearTicks (range : Range) : List Float :=
  if range.spread.abs < negligible then [range.start]
  else
    let grid := range.grid
    let first := range.firstMultiple grid.step
    let base := (first / grid.grain).floor * grid.grain
    grid.steps base (range.lastMultiple grid.step) 1000 (first - base)

def powers (range : Range) (factor : Float) (multiples : List Float) : Nat → Float → List Float
  | 0, _ => []
  | count + 1, power =>
    if power ≤ range.stop then
      power :: (multiples.map (power * ·)).takeWhile (· ≤ range.stop) ++
        powers range factor multiples count (power * factor)
    else []

/-- A range of less than two decades has the digits of each, up to ten; one of many decades shows
every second or every third of them, so that there are at most eleven. -/
def logarithmicTicks (range : Range) : List Float :=
  let ten := (10 : Float).log
  let decades := (max ((range.stop / range.start).log.abs / ten).floor 1).toUInt32.toNat
  let multiples := if decades = 1 then (List.range 9).map fun n => Float.ofNat (n + 2) else []
  let factor := Float.ofScientific 1 false (decades / 12 + 1)
  range.powers factor multiples 1000 (Float.pow 10 (range.start.log / ten).ceil)

end Range

end ContentionCharts
