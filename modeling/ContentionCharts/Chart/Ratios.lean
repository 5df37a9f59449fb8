import ContentionCharts.Chart.Basic
import ContentionCharts.Report.Series

/-!
The bar chart of the fairness ratios: a slot for every ratio that is present, with its value written
above the bar.
-/
namespace ContentionCharts

open ContentionCharts.Report ContentionCharts.Number

/-- Colours go by slot: a lone reference takes the first one. -/
def slotColor (slot : Nat) : Color :=
  if slot % 2 = 0 then { red := 0xff, green := 0x6b, blue := 0x6b }
  else { red := 0x4e, green := 0xcd, blue := 0xc4 }

def layOutRatios (settings : Settings) (wording : Wording)
    (entries : List (Contender × Float)) (path : Path) : BarChart :=
  { path
    size := settings.extent settings.barFigure
    title := "Mutex Fairness Comparison"
    titleFont := settings.fontSize 14
    margin := settings.pixels 10
    horizontalArea := settings.pixels 30
    verticalArea := settings.pixels 50
    valueTitle := "Fairness Ratio (min/max)"
    valueRange := ⟨0, 1.1⟩
    axisFont := settings.fontSize 12
    tickFont := settings.fontSize 11
    legend := entries.map fun (contender, _) => wording.label contender
    legendFont := settings.fontSize 11
    slots := (0, entries.length - 1)
    bars := entries.mapIdx fun slot (_, ratio) =>
      ⟨slot, ratio, settings.pixels 30, (slotColor slot).fill⟩
    barLabels := entries.map fun (contender, _) => contender.key
    notes := entries.mapIdx fun slot (_, ratio) => ⟨thousandths ratio, slot, ratio + 0.01⟩
    noteFont := settings.fontSize 11 }

end ContentionCharts
