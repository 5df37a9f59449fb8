import ContentionCharts.Chart.Span

/-!
How a figure is shared out. Inside the margins the title takes the top; what is left is cut into
the plot and the areas around it, of which the one to its left and the one below it have a length
of their own. In a cramped figure these areas may be empty, and those on the other sides may not.
-/
namespace ContentionCharts

open ContentionCharts.Number

/-- Letters rise above their line by an em and reach below it by about a quarter of that; an em is
about two thirds of the size of the font. -/
def em (fontSize : Float) : Float := fontSize / 1.24 / 1.24

def lineHeight (fontSize : Float) : Nat :=
  (toPixels (em fontSize)).toNat + (toPixels (em fontSize * 0.24)).toNat

/-- Every byte of a text counts as seven tenths of an em. -/
def textWidth (fontSize : Float) (text : String) : Int32 :=
  (em fontSize * 0.7 * Float.ofNat text.utf8ByteSize).round.toInt32

def titleHeight (fontSize : Float) : Nat :=
  let line := lineHeight fontSize
  line + 2 * min (line / 2) 5

inductive Side where
  | top | left | bottom | right
  deriving DecidableEq, Repr

def Side.all : List Side := [top, left, bottom, right]

def Side.opposite : Side → Side
  | top => bottom
  | left => right
  | bottom => top
  | right => left

structure Box where
  across : Span
  down : Span
  deriving DecidableEq, Repr

namespace Box

def solid? (box : Box) : Option Box :=
  if 0 < box.across.length ∧ 0 < box.down.length then some box else none

def meets (box other : Box) : Bool := box.across.meets other.across && box.down.meets other.down

end Box

namespace Frame

def inner (frame : Frame) : Box :=
  let margin := frame.margin.toInt32
  { across := ⟨margin, frame.size.width.toInt32 - margin⟩
    down :=
      ⟨margin + Int32.ofNat (titleHeight frame.titleFont), frame.size.height.toInt32 - margin⟩ }

def leftLength (frame : Frame) : Int32 := frame.verticalArea.toInt32

def across (frame : Frame) : Parts := frame.inner.across.divide (max 0 frame.leftLength) 0

def down (frame : Frame) : Parts := frame.inner.down.divide 0 frame.horizontalArea.toInt32

def plot (frame : Frame) : Box := ⟨frame.across.middle, frame.down.middle⟩

/-- The area on a side of the plot, if there is any. An area of negative length takes nothing from
the figure: it lies on the plot, from its edge inwards. -/
def area? (frame : Frame) : Side → Option Box
  | .top => Box.solid? ⟨frame.across.middle, frame.down.before⟩
  | .left =>
    if frame.leftLength < 0 then
      let start := frame.plot.across.start
      some ⟨⟨start, max start (start - frame.leftLength)⟩, frame.plot.down⟩
    else Box.solid? ⟨frame.across.before, frame.down.middle⟩
  | .bottom => Box.solid? ⟨frame.across.middle, frame.down.after⟩
  | .right => Box.solid? ⟨frame.across.after, frame.down.middle⟩

def tickLength (frame : Frame) : Int32 :=
  let shorter := min frame.plot.across.length frame.plot.down.length
  min 5 (0.05 * shorter.toFloat).round.toInt32

def inward (frame : Frame) (side : Side) : Bool :=
  0 < frame.tickLength && (frame.area? side).any fun area => area.meets frame.plot

end Frame

end ContentionCharts
