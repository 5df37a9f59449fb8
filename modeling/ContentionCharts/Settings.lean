import ContentionCharts.Number.Rounding
import ContentionCharts.Path

/-!
Where charts are written and how large they are. Figures are measured in inches and letters in
points of 1/72 inch; the resolution turns both into pixels.
-/
namespace ContentionCharts

open ContentionCharts.Number

structure Figure where
  width : Float
  height : Float
  deriving BEq

structure Extent where
  width : UInt32
  height : UInt32
  deriving DecidableEq, Repr

structure FileNames where
  throughput : String := "throughput.png"
  scalability : String := "scalability.png"
  fairness : String := "fairness.png"
  sections : String := "cs_sensitivity.png"
  deriving DecidableEq, Repr

structure Settings where
  directory : Path := ⟨"."⟩
  /-- Pixels per inch. -/
  resolution : UInt32 := 150
  lineFigure : Figure := ⟨10, 6⟩
  barFigure : Figure := ⟨8, 6⟩
  files : FileNames := {}

namespace Settings

/-- Directories are compared by their parts and figures as numbers. -/
def same (a b : Settings) : Bool :=
  a.directory.same b.directory && a.resolution == b.resolution &&
    a.lineFigure == b.lineFigure && a.barFigure == b.barFigure && a.files == b.files

def extent (settings : Settings) (figure : Figure) : Extent :=
  let perInch := settings.resolution.toFloat
  ⟨toPixels (figure.width * perInch), toPixels (figure.height * perInch)⟩

def fontSize (settings : Settings) (points : Float) : Float :=
  points * settings.resolution.toFloat / 72

def pixels (settings : Settings) (points : Float) : UInt32 :=
  toPixels (settings.fontSize points)

def file (settings : Settings) (name : String) : Path :=
  settings.directory.join name

end Settings

end ContentionCharts
