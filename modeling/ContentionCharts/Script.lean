import ContentionCharts.Chart.Basic
import ContentionCharts.Directory
import ContentionCharts.Log

/-!
What a program does, as a tree of steps: it logs, prints, reads files and draws charts, and what
follows depends on what reading and drawing answer. The same tree is carried out against a directory
held as a value or against a real one; its laws are about the tree and the answers only.
-/
namespace ContentionCharts

inductive Script (α : Type) where
  | done (value : α)
  | log (events : List Event) (next : Script α)
  | print (text : String) (next : Script α)
  | read (path : Path) (next : Except ReadError String → Script α)
  | draw (chart : Chart) (next : Bool → Script α)

namespace Script

def bind : Script α → (α → Script β) → Script β
  | done value, f => f value
  | log events next, f => .log events (next.bind f)
  | print text next, f => .print text (next.bind f)
  | read path next, f => .read path fun answer => (next answer).bind f
  | draw chart next, f => .draw chart fun answer => (next answer).bind f

instance : Monad Script where
  pure := done
  bind := bind

def say (events : List Event) : Script Unit := .log events (.done ())

def tell (text : String) : Script Unit := .print text (.done ())

def readFile (path : Path) : Script (Except ReadError String) := .read path .done

def drawChart (chart : Chart) : Script Bool := .draw chart .done

def report (logged : Logged α) : Script α := .log logged.log (.done logged.value)

def admitting (admits : Event → Bool) : Script α → Script α
  | done value => .done value
  | log events next => .log (events.filter admits) (next.admitting admits)
  | print text next => .print text (next.admitting admits)
  | read path next => .read path fun answer => (next answer).admitting admits
  | draw chart next => .draw chart fun answer => (next answer).admitting admits

end Script

/-- Files of any kind: what reading answers, and whether a chart can be written and what they are
after the attempt. -/
structure Storage (σ : Type) where
  read : σ → Path → Except ReadError String
  draw : σ → Chart → Bool × σ

def Directory.storage : Storage Directory where
  read := Directory.read
  draw directory chart := directory.draw chart.path chart.size

structure Outcome (σ α : Type) where
  value : α
  charts : List Chart
  printed : List String
  log : List Event
  files : σ

namespace Outcome

def output (outcome : Outcome σ α) : String := String.join outcome.printed

def followedBy (first : Outcome σ α) (second : Outcome σ β) : Outcome σ β where
  value := second.value
  charts := first.charts ++ second.charts
  printed := first.printed ++ second.printed
  log := first.log ++ second.log
  files := second.files

end Outcome

/-- A chart counts as begun even if it cannot be written. -/
def Script.run (storage : Storage σ) : Script α → σ → Outcome σ α
  | .done value, files => ⟨value, [], [], [], files⟩
  | .log events next, files =>
    let outcome := next.run storage files
    { outcome with log := events ++ outcome.log }
  | .print text next, files =>
    let outcome := next.run storage files
    { outcome with printed := text :: outcome.printed }
  | .read path next, files => (next (storage.read files path)).run storage files
  | .draw chart next, files =>
    let (written, after) := storage.draw files chart
    let outcome := (next written).run storage after
    { outcome with charts := chart :: outcome.charts }

theorem Script.run_bind (storage : Storage σ) (script : Script α) (f : α → Script β)
    (files : σ) :
    (script.bind f).run storage files =
      let first := script.run storage files
      first.followedBy ((f first.value).run storage first.files) := by
  induction script generalizing files with
  | done value => rfl
  | log events next ih => simp [bind, run, ih, Outcome.followedBy]
  | print text next ih => simp [bind, run, ih, Outcome.followedBy]
  | read path next ih => simp [bind, run, ih]
  | draw chart next ih => simp [bind, run, ih, Outcome.followedBy]

end ContentionCharts
