import ContentionCharts.Image.Png
import ContentionCharts.Program

/-!
The command line program: the steps of the script carried out on the console and on real files.
-/
namespace ContentionCharts

/-- A path that goes through a file has the same kind of error as one that ends in a folder; the
number tells them apart. -/
def folderErrorNumber : UInt32 := 21

def readErrorOf : IO.Error → ReadError
  | .inappropriateType _ number _ =>
    if number = folderErrorNumber then .isADirectory else .notADirectory
  | .permissionDenied _ _ _ => .denied
  | .invalidArgument _ _ _ => .nameTooLong
  | _ => .notFound

def readText (path : Path) : IO (Except ReadError String) := do
  try
    match String.fromUTF8? (← IO.FS.readBinFile path.text) with
    | some text => return .ok text
    | none => return .error .notText
  catch error => return .error (readErrorOf error)

/-- Only PNG files are written, which is what the program's own charts are. -/
def writeImage (chart : Chart) : IO Bool := do
  if ImageFormat.ofName? (chart.path.pieces.getLast?.getD "") = some .png then
    try
      IO.FS.writeBinFile chart.path.text (Image.blankPng chart.size)
      return true
    catch _ => return false
  else return false

def perform : Script α → IO α
  | .done value => return value
  | .log events next => do
    for event in events do
      IO.eprintln (event.line ++ event.detail)
    perform next
  | .print text next => do
    IO.print text
    perform next
  | .read path next => do perform (next (← readText path))
  | .draw chart next => do perform (next (← writeImage chart))

end ContentionCharts

open ContentionCharts in
def main (arguments : List String) : IO UInt32 := do
  let ending ← perform (program arguments (← IO.getEnv "RUST_LOG"))
  IO.eprint ending.complaint
  return ending.code.toUInt32
