import ContentionCharts.Chart.Basic
import ContentionCharts.Number.Real

/-!
The ranges of the axes. They are found from the data alone: the key axis leaves room on both sides,
the value axis starts at zero, and values that are not finite have no say.
-/
namespace ContentionCharts

open ContentionCharts.Number

def lowest (values : List Float) : Float :=
  values.foldl min infinity

def highest (values : List Float) : Float :=
  values.foldl max (-infinity)

def linearRange (keys : List Float) : Range :=
  let low := lowest keys
  let high := highest keys
  let room := max ((high - low) * 0.05) 0.5
  ⟨low - room, high + room⟩

/-- A factor of one and a half on each side, which keeps the start of positive keys positive. -/
def logarithmicRange (keys : List Float) : Range :=
  ⟨lowest keys / 1.5, highest keys * 1.5⟩

def Scale.range : Scale → List Float → Range
  | linear => linearRange
  | logarithmic => logarithmicRange

def peak (values : List Float) : Float :=
  (values.filter Float.isFinite).foldl max 0

def valueRange (values : List Float) : Range :=
  let top := peak values
  ⟨0, if 0 < top then top * 1.1 else 1⟩

end ContentionCharts
