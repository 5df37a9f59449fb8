import ContentionCharts.Chart.Layout
import ContentionCharts.Chart.Tick
import ContentionCharts.Number.Short

/-!
The texts around the plot, in the order in which they are written: on every side that has an area,
the labels of an axis and then its title. How a text lies at its point tells what it is read as, so
that in a cramped figure a label may be taken for a title.
-/
namespace ContentionCharts

open ContentionCharts.Number

/-- From its point a text goes down, up, to the right or to the left; a turned one is read upwards.
-/
inductive Placement where
  | hanging
  | standing
  | starting
  | ending
  | turned
  deriving DecidableEq, Repr

structure Lettering where
  text : String
  placement : Placement
  deriving DecidableEq, Repr

structure Label where
  place : Int32
  text : String
  deriving DecidableEq, Repr

namespace Side

def label : Side → Placement
  | top => .standing
  | left => .ending
  | bottom => .hanging
  | right => .starting

def title : Side → Placement
  | top => .hanging
  | bottom => .standing
  | left | right => .turned

end Side

/-- The room for the labels on the right: as much as the widest takes, but less than twice as much
as the narrowest does. Words wrap, and then there is no room at all. -/
def labelRoom (widths : List Int32) : Int32 :=
  let least := max 1 (widths.min?.getD 1)
  let most := ((widths.filter (· < 2 * least)).max?).getD least
  min (2 * least) most

namespace Frame

def valueLabels (frame : Frame) : List Label :=
  frame.valueRange.linearTicks.map fun value =>
    ⟨frame.plot.down.backward.place frame.valueRange value, shortText value⟩

/-- On the right the numbers are aligned to the edge of their room, unless they fill it. -/
def placement (frame : Frame) (labels : List Label) (side : Side) (text : String) : Placement :=
  if frame.inward side then side.opposite.label
  else if side = .right then
    let width := textWidth frame.tickFont
    if width text < labelRoom (labels.map (width ·.text)) then .ending else .starting
  else side.label

def letteringOn (frame : Frame) (side : Side) (axis : Span) (labels : List Label)
    (title : Option String) : List Lettering :=
  if (frame.area? side).isNone then []
  else
    (labels.filter (axis.shows ·.place)).map
      (fun label => ⟨label.text, frame.placement labels side label.text⟩) ++
    title.toList.map fun title => ⟨title, side.title⟩

end Frame

def LineChart.keyLabels (chart : LineChart) : List Label :=
  let axis := chart.plot.across.forward
  match chart.scale with
  | .linear =>
    chart.keyRange.linearTicks.map fun key => ⟨axis.place chart.keyRange key, shortText key⟩
  | .logarithmic =>
    let range : Range := ⟨chart.keyRange.start.log, chart.keyRange.stop.log⟩
    chart.keyRange.logarithmicTicks.map fun key => ⟨axis.place range key.log, roundText key⟩

def BarChart.keyLabels (chart : BarChart) : List Label :=
  chart.barLabels.mapIdx fun slot name =>
    ⟨chart.plot.across.forward.slotMiddle chart.barLabels.length slot, name⟩

namespace Chart

def keyLabels : Chart → List Label
  | lines chart => chart.keyLabels
  | bars chart => chart.keyLabels

def keyTitle? : Chart → Option String
  | lines chart => some chart.keyTitle
  | bars _ => none

def letteringOn (chart : Chart) (side : Side) : List Lettering :=
  let frame := chart.frame
  match side with
  | .top | .bottom => frame.letteringOn side frame.plot.across chart.keyLabels chart.keyTitle?
  | .left | .right =>
    frame.letteringOn side frame.plot.down frame.valueLabels (some frame.valueTitle)

def lettering (chart : Chart) : List Lettering := Side.all.flatMap chart.letteringOn

def textsPlaced (chart : Chart) (placement : Placement) : List String :=
  (chart.lettering.filter (·.placement = placement)).map Lettering.text

def shownValueTitle? (chart : Chart) : Option String := (chart.textsPlaced .turned).getLast?

def shownKeyTitle? (chart : Chart) : Option String := (chart.textsPlaced .standing).getLast?

def shownAxisFont? (chart : Chart) : Option Float :=
  chart.shownValueTitle?.map fun _ => chart.frame.axisFont

/-- Numbers that end at their point are the ones that show the size of their font. -/
def shownTickFont? (chart : Chart) : Option Float :=
  (chart.textsPlaced .ending).head?.map fun _ => chart.frame.tickFont

def shownNames (chart : Chart) : List String := chart.textsPlaced .hanging

end Chart

end ContentionCharts
