import ContentionCharts.Proofs.Storage

/-!
What scripts read, what is left of their log, and scripts that do nothing but draw, and give up at
the first chart that is refused. If such a script does not fail, it has written all its charts; and
it does the same on all files that write the same charts.
-/
namespace ContentionCharts

variable {σ τ ε α β : Type} {storage : Storage σ}

namespace Script

theorem run_draw_of_eq {chart : Chart} {next : Bool → Script α} {files after : σ} {written : Bool}
    (h : storage.draw files chart = (written, after)) :
    (Script.draw chart next).run storage files =
      let outcome := (next written).run storage after
      { outcome with charts := chart :: outcome.charts } := by
  rw [run, h]

theorem run_admitting (admits : Event → Bool) (script : Script α) (files : σ) :
    (script.admitting admits).run storage files =
      let outcome := script.run storage files
      { outcome with log := outcome.log.filter admits } := by
  induction script generalizing files with
  | done value => rfl
  | log events next ih =>
    rw [admitting, run, run, ih]
    dsimp only
    rw [List.filter_append]
  | print text next ih =>
    rw [admitting, run, run, ih]
  | read path next ih =>
    rw [admitting, run, run, ih]
  | draw chart next ih =>
    cases hdraw : storage.draw files chart with
    | mk written after => rw [admitting, run_draw_of_eq hdraw, run_draw_of_eq hdraw, ih]

def pathsRead (storage : Storage σ) : Script α → σ → List Path
  | .done _, _ => []
  | .log _ next, files => next.pathsRead storage files
  | .print _ next, files => next.pathsRead storage files
  | .read path next, files => path :: (next (storage.read files path)).pathsRead storage files
  | .draw chart next, files =>
    let (written, after) := storage.draw files chart
    (next written).pathsRead storage after

theorem pathsRead_bind (script : Script α) (f : α → Script β) (files : σ) :
    (script.bind f).pathsRead storage files =
      let first := script.run storage files
      script.pathsRead storage files ++ (f first.value).pathsRead storage first.files := by
  induction script generalizing files with
  | done value => rfl
  | log events next ih => exact ih files
  | print text next ih => exact ih files
  | read path next ih => exact congrArg (path :: ·) (ih _ files)
  | draw chart next ih => exact ih _ _

theorem pathsRead_admitting (admits : Event → Bool) (script : Script α) (files : σ) :
    (script.admitting admits).pathsRead storage files = script.pathsRead storage files := by
  induction script generalizing files with
  | done value => rfl
  | log events next ih => exact ih files
  | print text next ih => exact ih files
  | read path next ih => exact congrArg (path :: ·) (ih _ files)
  | draw chart next ih => exact ih _ _

/-- A script that draws only charts with a property, and fails as soon as one is refused. -/
inductive Strict (P : Chart → Prop) : Script (Except ε α) → Prop where
  | done (value : Except ε α) : Strict P (.done value)
  | log (events : List Event) {next : Script (Except ε α)} (h : Strict P next) :
      Strict P (.log events next)
  | print (text : String) {next : Script (Except ε α)} (h : Strict P next) :
      Strict P (.print text next)
  | draw {chart : Chart} {next : Bool → Script (Except ε α)} {failure : ε} (hchart : P chart)
      (hwritten : Strict P (next true)) (hrefused : next false = .done (.error failure)) :
      Strict P (.draw chart next)

namespace Strict

variable {P Q : Chart → Prop} {script : Script (Except ε α)}

theorem mono (h : script.Strict P) (hPQ : ∀ chart, P chart → Q chart) : script.Strict Q := by
  induction h with
  | done value => exact .done value
  | log events _ ih => exact .log events ih
  | print text _ ih => exact .print text ih
  | draw hchart _ hrefused ih => exact .draw (hPQ _ hchart) ih hrefused

theorem bind {f : Except ε α → Script (Except ε β)} (h : script.Strict P)
    (herror : ∀ failure, f (.error failure) = .done (.error failure))
    (hok : ∀ value, (f (.ok value)).Strict P) : (script.bind f).Strict P := by
  induction h with
  | done value =>
    cases value with
    | error failure =>
      rw [Script.bind, herror]
      exact .done _
    | ok value => exact hok value
  | log events _ ih => exact .log events ih
  | print text _ ih => exact .print text ih
  | @draw chart next failure hchart _ hrefused ih =>
    have hfailed : (next false).bind f = .done (.error failure) := by
      rw [hrefused]
      exact herror failure
    exact .draw hchart ih hfailed

theorem pathsRead_eq_nil (h : script.Strict P) (files : σ) :
    script.pathsRead storage files = [] := by
  induction h generalizing files with
  | done value => rfl
  | log events _ ih => exact ih files
  | print text _ ih => exact ih files
  | @draw chart next failure _ _ hrefused ih =>
    unfold pathsRead
    dsimp only
    cases (storage.draw files chart).1 with
    | true => exact ih _
    | false =>
      rw [hrefused]
      rfl

end Strict

end Script

end ContentionCharts
