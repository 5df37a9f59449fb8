import ContentionCharts.Table.Row
import ContentionCharts.Text.Search

/-!
The lines of a table by class. A table is described by the phrase in its header and by what its rows
must look like; a line is classed by itself, whatever stands before or after it.
-/
namespace ContentionCharts.Table

open ContentionCharts.Text

inductive Termination where
  | endOfText | blankLine
  deriving DecidableEq, Repr

structure Spec where
  marker : String
  minFields : Nat
  exclude : Option String := none
  termination : Termination := .blankLine
  deriving DecidableEq, Repr

inductive LineClass where
  | blank
  | header
  | separator
  | data (row : Row)
  | noise (fault : RowFault)

/-- A ruled line: a run of dashes, which the joints of columns may break up. -/
def isRule (line : List Char) : Bool :=
  occursIn ['-', '-', '-'] line &&
    line.all fun c => c == '-' || c == '|' || c == '+' || isBlank c

def Spec.isHeader (spec : Spec) (line : List Char) : Bool :=
  occursIn spec.marker.toList line ||
    spec.exclude.any fun phrase => occursIn phrase.toList line

/-- The first class that fits, in this order; a line that fits none is noise. -/
def Spec.classOf (spec : Spec) (line : List Char) : LineClass :=
  let text := trim line
  if text.isEmpty then .blank
  else if spec.isHeader text then .header
  else if isRule text then .separator
  else
    match Row.ofLine spec.minFields text with
    | .ok row => .data row
    | .error fault => .noise fault

end ContentionCharts.Table
