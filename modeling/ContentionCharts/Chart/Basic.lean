import ContentionCharts.Settings

/-!
Charts as values: everything that is asked of a canvas, in its own units. Two kinds are drawn, lines
over a numeric axis and bars over named slots; they share their frame.
-/
namespace ContentionCharts

structure Color where
  red : UInt8
  green : UInt8
  blue : UInt8
  /-- In hundredths. -/
  opacity : Nat := 100
  deriving DecidableEq, Repr

structure Style where
  color : Color
  filled : Bool
  stroke : UInt32
  deriving DecidableEq, Repr

def Color.fill (color : Color) : Style := ⟨color, true, 1⟩

def Color.pen (color : Color) (stroke : UInt32) : Style := ⟨color, false, stroke⟩

structure Point where
  x : Float
  y : Float

structure Range where
  start : Float
  stop : Float

inductive Scale where
  | linear | logarithmic
  deriving DecidableEq, Repr

structure Curve where
  points : List Point
  style : Style

inductive Shape where
  | circle (radius : UInt32)
  | rectangle (width height : UInt32)
  deriving DecidableEq, Repr

structure Markers where
  count : Nat
  size : UInt32
  shape : Shape
  style : Style
  deriving DecidableEq, Repr

/-- What a line chart and a bar chart have in common. Fonts and areas are in pixels. -/
structure Frame where
  path : Path
  size : Extent
  title : String
  titleFont : Float
  margin : UInt32
  horizontalArea : UInt32
  verticalArea : UInt32
  valueTitle : String
  valueRange : Range
  axisFont : Float
  tickFont : Float
  legend : List String
  legendFont : Float

structure LineChart extends Frame where
  keyTitle : String
  scale : Scale
  keyRange : Range
  curves : List Curve
  markers : List Markers

structure Bar where
  slot : Nat
  value : Float
  margin : UInt32
  style : Style

structure Note where
  text : String
  slot : Nat
  height : Float

structure BarChart extends Frame where
  slots : Nat × Nat
  bars : List Bar
  barLabels : List String
  notes : List Note
  noteFont : Float

inductive Chart where
  | lines (chart : LineChart)
  | bars (chart : BarChart)

namespace Chart

def frame : Chart → Frame
  | lines chart => chart.toFrame
  | bars chart => chart.toFrame

def path (chart : Chart) : Path := chart.frame.path

def size (chart : Chart) : Extent := chart.frame.size

end Chart

end ContentionCharts
