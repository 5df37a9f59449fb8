import ContentionCharts.Chart.Axis
import ContentionCharts.Report.Series

/-!
Line charts that compare the two contenders: for each a curve through its points and a marker
on every point, over the same keys, and if asked for a level line across the whole width.
-/
namespace ContentionCharts

open ContentionCharts.Report

/-- What a comparison shows, before it is laid out. The values stand in the order of the keys. -/
structure Comparison where
  title : String
  keyTitle : String
  valueTitle : String
  scale : Scale
  keys : List Float
  candidate : List Float
  reference : List Float
  ideal : Option Float := none

def Report.Contender.color : Contender → Color
  | .candidate => { red := 0x1f, green := 0x77, blue := 0xb4 }
  | .reference => { red := 0xff, green := 0x7f, blue := 0x0e }

def idealColor : Color := { red := 0, green := 0, blue := 0, opacity := 50 }

def Report.Contender.marker (size : UInt32) : Contender → Shape
  | .candidate => .circle size
  | .reference => .rectangle (2 * size) (2 * size)

def plotted (keys values : List Float) : List Point :=
  keys.zipWith Point.mk values

namespace Comparison

def values (comparison : Comparison) : Contender → List Float
  | .candidate => comparison.candidate
  | .reference => comparison.reference

def points (comparison : Comparison) (contender : Contender) : List Point :=
  plotted comparison.keys (comparison.values contender)

def idealPoints (comparison : Comparison) (level : Float) : List Point :=
  [⟨lowest comparison.keys, level⟩, ⟨highest comparison.keys, level⟩]

def layOut (comparison : Comparison) (settings : Settings) (wording : Wording) (path : Path) :
    LineChart :=
  let stroke := max (settings.pixels 1.5) 1
  let markerSize := settings.pixels 4
  { path
    size := settings.extent settings.lineFigure
    title := comparison.title
    titleFont := settings.fontSize 14
    margin := settings.pixels 10
    horizontalArea := settings.pixels 30
    verticalArea := settings.pixels 50
    valueTitle := comparison.valueTitle
    valueRange := valueRange
      (comparison.candidate ++ comparison.reference ++ comparison.ideal.toList)
    axisFont := settings.fontSize 12
    tickFont := settings.fontSize 10
    legend := Contender.all.map wording.label ++ comparison.ideal.toList.map fun _ => "Ideal"
    legendFont := settings.fontSize 11
    keyTitle := comparison.keyTitle
    scale := comparison.scale
    keyRange := comparison.scale.range comparison.keys
    curves :=
      Contender.all.map (fun contender =>
        ⟨comparison.points contender, contender.color.pen stroke⟩) ++
      comparison.ideal.toList.map fun level =>
        ⟨comparison.idealPoints level, idealColor.pen stroke⟩
    markers := Contender.all.map fun contender =>
      { count := (comparison.points contender).length
        size := markerSize
        shape := contender.marker markerSize
        style := contender.color.fill } }

end Comparison

end ContentionCharts
