import ContentionCharts.Number.Natural
import ContentionCharts.Number.Real
import ContentionCharts.Text.Blank
import ContentionCharts.Text.Quoted

/-!
One row of a table: fields divided by `|`, of which the first three give a key and the values
measured for the candidate and for the reference. Only the first word of a field counts, so units
after a number and blanks around it mean nothing.
-/
namespace ContentionCharts.Table

open ContentionCharts.Text ContentionCharts.Number

structure Row where
  key : UInt64
  candidate : Float
  reference : Float
  deriving BEq

/-- Why a line is not a row. Columns count from zero. -/
inductive RowFault where
  | tooFewFields (found expected : Nat)
  | emptyField (column : Nat)
  | notNumeric (column : Nat) (token : String)
  deriving DecidableEq, Repr

def RowFault.message : RowFault → String
  | tooFewFields found expected =>
    "expected at least " ++ toString expected ++ " fields, found " ++ toString found
  | emptyField column => "field " ++ toString column ++ " is empty"
  | notNumeric column token =>
    "field " ++ toString column ++ " is not numeric: " ++ quoted token.toList

def readField (column : Nat) (read : List Char → Option α) (field : List Char) :
    Except RowFault α :=
  match firstWord? field with
  | none => .error (.emptyField column)
  | some token =>
    match read token with
    | none => .error (.notNumeric column (String.ofList token))
    | some value => .ok value

def fields (line : List Char) : List (List Char) :=
  line.splitOn '|'

/-- A row has three fields even if fewer are asked for. -/
def expectedFields (minFields : Nat) : Nat :=
  max minFields 3

/-- The number of fields is checked before any of them is read, and they are read from the left. -/
def Row.ofLine (minFields : Nat) (line : List Char) : Except RowFault Row :=
  let found := (fields line).length
  let expected := expectedFields minFields
  match fields line with
  | first :: second :: third :: _ =>
    if found < expected then .error (.tooFewFields found expected)
    else do
      let key ← readField 0 word? first
      let candidate ← readField 1 real? second
      let reference ← readField 2 real? third
      return ⟨key, candidate, reference⟩
  | _ => .error (.tooFewFields found expected)

end ContentionCharts.Table
