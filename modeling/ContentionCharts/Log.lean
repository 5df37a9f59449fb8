import ContentionCharts.Number.Natural
import ContentionCharts.Text.Blank

/-!
Log events as values. A computation that logs returns its events beside its result, in the order in
which they happened; what a reader of the log gets to see is decided afterwards, by directives that
each give a verbosity to a part of the program.
-/
namespace ContentionCharts

inductive Level where
  | error | warn | info | debug | trace
  deriving DecidableEq, Repr

namespace Level

def name : Level → String
  | error => "ERROR"
  | warn => "WARN"
  | info => "INFO"
  | debug => "DEBUG"
  | trace => "TRACE"

def rank : Level → Nat
  | error => 1
  | warn => 2
  | info => 3
  | debug => 4
  | trace => 5

end Level

inductive Origin where
  | table | reading | drawing | plotting
  deriving DecidableEq, Repr

def Origin.name : Origin → String
  | table => "common::table"
  | reading => "simple_mutex::result"
  | drawing => "simple_mutex_basic"
  | plotting => "mutex_plots::plot"

structure Event where
  level : Level
  origin : Origin
  message : String
  /-- A value that the message shows in full. -/
  detail : String := ""
  deriving DecidableEq, Repr

def Event.line (event : Event) : String :=
  event.level.name ++ " " ++ event.origin.name ++ ": " ++ event.message

structure Logged (α : Type) where
  value : α
  log : List Event

/-- The highest rank that is shown; zero shows nothing. -/
structure Verbosity where
  rank : Nat
  deriving DecidableEq, Repr

namespace Verbosity

def admits (verbosity : Verbosity) (event : Event) : Bool :=
  event.level.rank ≤ verbosity.rank

/-- A level by its rank, or by name in any case; no text at all asks for everything. -/
def ofLevel? (text : List Char) : Option Verbosity :=
  match Number.word? text with
  | some rank => if rank ≤ 5 then some ⟨rank.toNat⟩ else none
  | none =>
    match String.ofList (text.map Char.toLower) with
    | "off" => some ⟨0⟩
    | "error" => some ⟨1⟩
    | "warn" => some ⟨2⟩
    | "info" => some ⟨3⟩
    | "debug" => some ⟨4⟩
    | "trace" | "" => some ⟨5⟩
    | _ => none

/-- A comma may end the level; nothing but blanks may follow it. -/
def ofText? (text : String) : Option Verbosity :=
  let level := text.toList.takeWhile fun c => c != ','
  if ((text.toList.dropWhile fun c => c != ',').drop 1).all Text.isBlank then ofLevel? level
  else none

end Verbosity

structure Directive where
  scope : String
  verbosity : Verbosity
  deriving DecidableEq, Repr

namespace Directive

def concerns (directive : Directive) (origin : Origin) : Bool :=
  directive.scope.toList.isPrefixOf origin.name.toList

def narrowest? : List Directive → Option Directive
  | [] => none
  | directive :: directives =>
    match narrowest? directives with
    | none => some directive
    | some other =>
      if other.scope.length ≤ directive.scope.length then some directive else some other

/-- The narrowest directive about its origin decides on an event; without one it is not shown. -/
def admits (directives : List Directive) (event : Event) : Bool :=
  (narrowest? (directives.filter fun directive => directive.concerns event.origin)).any
    fun directive => directive.verbosity.admits event

end Directive

end ContentionCharts
