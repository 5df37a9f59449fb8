import ContentionCharts.CommandLine.Similarity

/-!
Reading the arguments of a command line: at most one report, and a flag for help. Arguments are
taken from the left; the first one that settles the matter wins. After `--` every argument is a
report, and so is a single dash.
-/
namespace ContentionCharts.CommandLine

inductive Request where
  | help
  | usage
  | plot (report : String)
  deriving DecidableEq, Repr

structure Usage where
  helpNamed : Bool
  reportNamed : Bool
  deriving DecidableEq, Repr

inductive ArgumentError where
  | emptyReport
  | unknownOption (option : String) (usage : Usage)
  | misspeltHelp (option : String) (usage : Usage)
  | helpWithValue (value : String)
  | surplus (argument : String)
  deriving DecidableEq, Repr

inductive Argument where
  | escape
  | helpFlag
  | helpWithValue (value : String)
  | unknownFlag (letter : Char)
  | unknownWord (word : String)
  | report (text : String)
  deriving DecidableEq, Repr

def ofWord (text : List Char) : Argument :=
  let word := String.ofList (text.takeWhile fun c => c != '=')
  match word, text.dropWhile fun c => c != '=' with
  | "help", _ :: value => .helpWithValue (String.ofList value)
  | "help", [] => .helpFlag
  | _, _ => .unknownWord word

/-- What an argument is before `--`. Letters after one dash are flags, and the first one decides. -/
def Argument.ofText (text : String) : Argument :=
  match text.toList with
  | ['-', '-'] => .escape
  | '-' :: '-' :: word => ofWord word
  | '-' :: letter :: _ => if letter = 'h' then .helpFlag else .unknownFlag letter
  | _ => .report text

def settle (report : Option String) : Except ArgumentError Request :=
  match report with
  | none => .ok .usage
  | some "" => .error .emptyReport
  | some text => .ok (.plot text)

def takeReports : Option String → List String → Except ArgumentError Request
  | report, [] => settle report
  | none, text :: texts => takeReports (some text) texts
  | some _, text :: _ => .error (.surplus text)

/-- A word that is much like `help` is taken for a slip. -/
def unknownWord (word : String) (reportNamed : Bool) : ArgumentError :=
  let option := "--" ++ word
  if 0.7 < similarity word.toList "help".toList then .misspeltHelp option ⟨true, reportNamed⟩
  else .unknownOption option ⟨false, reportNamed⟩

/-- A report that is empty is only found out once no other mistake came first. -/
def takeArguments : Option String → List String → Except ArgumentError Request
  | report, [] => settle report
  | report, text :: texts =>
    match Argument.ofText text with
    | .escape => takeReports report texts
    | .helpFlag => if report = some "" then .error .emptyReport else .ok .help
    | .helpWithValue value => .error (.helpWithValue value)
    | .unknownFlag letter =>
      .error (.unknownOption (String.ofList ['-', letter]) ⟨false, false⟩)
    | .unknownWord word => .error (unknownWord word report.isSome)
    | .report text =>
      match report with
      | none => takeArguments (some text) texts
      | some _ => .error (.surplus text)

def parse (arguments : List String) : Except ArgumentError Request :=
  takeArguments none arguments

end ContentionCharts.CommandLine
