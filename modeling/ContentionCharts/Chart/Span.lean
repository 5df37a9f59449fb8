import ContentionCharts.Chart.Basic

/-!
Stretches of pixels. Positions are words that wrap, since a margin or an area can be larger than a
position. An axis is a span too: it runs from its lowest value to its highest one, in either
direction.
-/
namespace ContentionCharts

structure Span where
  start : Int32
  stop : Int32
  deriving DecidableEq, Repr

structure Parts where
  before : Span
  middle : Span
  after : Span
  deriving DecidableEq, Repr

namespace Span

def cuts (span : Span) (before after : Int32) : List Int32 :=
  [span.start, span.stop, span.start + before, span.stop - after].mergeSort

/-- A part of the given length at each end and the rest between them. Where they do not fit, the
parts are still those between the cuts as they stand, and some of them lie outside. -/
def divide (span : Span) (before after : Int32) : Parts :=
  let cut (i : Nat) := (span.cuts before after).getD i span.stop
  ⟨⟨cut 0, cut 1⟩, ⟨cut 1, cut 2⟩, ⟨cut 2, cut 3⟩⟩

def length (span : Span) : UInt32 := (span.stop - span.start).toUInt32

def forward (span : Span) : Span := ⟨span.start, span.stop - 1⟩

def backward (span : Span) : Span := ⟨span.stop - 1, span.start⟩

def shows (span : Span) (place : Int32) : Bool :=
  let last := span.stop - 1 - span.start
  min 0 last ≤ place - span.start && place - span.start ≤ max 0 last

def meets (span other : Span) : Bool :=
  max span.start other.start < min span.stop other.stop

/-- The position of a value on an axis with the given range, rounded towards the start of the axis.
A range without any spread has all its values at half the length, counted from the edge of the
figure. -/
def place (axis : Span) (range : Range) (value : Float) : Int32 :=
  let length := axis.stop - axis.start
  if range.start == range.stop then length / 2
  else
    let share := (value - range.start) / (range.stop - range.start)
    if length = 0 then axis.stop
    else if 0 < length then axis.start + (length.toFloat * share + 0.001).floor.toInt32
    else axis.start + (length.toFloat * share - 0.001).ceil.toInt32

def slotMiddle (axis : Span) (count slot : Nat) : Int32 :=
  let width := ((axis.stop - axis.start).toFloat32 / Float32.ofNat count).round.toInt32
  let start (slot : Nat) :=
    place ⟨axis.start, axis.stop - width⟩ ⟨0, Float.ofNat (count - 1)⟩ (Float.ofNat slot)
  if slot + 1 < count then (start slot + start (slot + 1)) / 2 else start slot + width / 2

end Span

end ContentionCharts
