import ContentionCharts.Plotting
import ContentionCharts.Proofs.Chart.Design
import ContentionCharts.Proofs.Storage

/-!
What a run leaves behind. Of the charts that there is data for, it begins all up to the first one
that is refused; its value, its output, its log and its files follow from where that one stands.
Lines about saved charts name those charts that were written, whether the run succeeds or not.
-/
namespace ContentionCharts

open ContentionCharts.Report

namespace Presentation

variable {σ : Type} {storage : Storage σ} {presentation : Presentation} {findings : Findings}
  {kind : ChartKind} {kinds : List ChartKind} {explicit : Option Path} {chart : Chart}
  {files after : σ}

def savedLine (kind : ChartKind) (path : Path) : String :=
  "Saved " ++ kind.noun ++ " to " ++ path.text ++ "\n"

theorem render_of_error {event : Event}
    (h : presentation.design findings kind explicit = .error event) :
    presentation.render findings kind explicit = .log [event] (.done (.ok none)) := by
  unfold render
  rw [h]
  rfl

theorem render_of_ok (h : presentation.design findings kind explicit = .ok chart) :
    presentation.render findings kind explicit = .draw chart fun written =>
      if written then .print (savedLine kind chart.path) (.done (.ok (some chart.path)))
      else .done (.error (.unwritten chart.path)) := by
  unfold render
  rw [h]
  rfl

def prepend (paths : List Path) :
    Except Failure (List Path) → Script (Except Failure (List Path))
  | .error failure => .done (.error failure)
  | .ok later => .done (.ok (paths ++ later))

theorem run_bind_prepend (paths : List Path) (script : Script (Except Failure (List Path))) :
    (script.bind (prepend paths)).run storage files =
      let outcome := script.run storage files
      { outcome with value := outcome.value.map (paths ++ ·) } := by
  rw [Script.run_bind]
  cases hvalue : (script.run storage files).value <;>
    simp [hvalue, prepend, Script.run, Outcome.followedBy, Except.map]

theorem renderEach_cons :
    presentation.renderEach findings (kind :: kinds) =
      (presentation.render findings kind).bind fun answer =>
        match answer with
        | .error failure => .done (.error failure)
        | .ok path =>
          (presentation.renderEach findings kinds).bind (prepend path.toList) := by
  have hprepend (path : Option Path) : prepend path.toList = fun answer =>
      match answer with
      | .error failure => .done (.error failure)
      | .ok paths => .done (.ok (path.toList ++ paths)) := by
    funext answer
    cases answer <;> rfl
  simp only [hprepend]
  rfl

/-! What one kind of chart does in front of others. -/

theorem run_renderEach_of_error {event : Event}
    (h : presentation.design findings kind = .error event) :
    (presentation.renderEach findings (kind :: kinds)).run storage files =
      let later := (presentation.renderEach findings kinds).run storage files
      { later with log := event :: later.log } := by
  rw [renderEach_cons, render_of_error h]
  change (Script.log [event] ((presentation.renderEach findings kinds).bind
    (prepend []))).run storage files = _
  rw [Script.run, run_bind_prepend]
  cases hvalue : ((presentation.renderEach findings kinds).run storage files).value <;>
    simp [hvalue, Except.map]

theorem run_renderEach_of_written (h : presentation.design findings kind = .ok chart)
    (hdraw : storage.draw files chart = (true, after)) :
    (presentation.renderEach findings (kind :: kinds)).run storage files =
      let later := (presentation.renderEach findings kinds).run storage after
      { value := later.value.map (chart.path :: ·)
        charts := chart :: later.charts
        printed := savedLine kind chart.path :: later.printed
        log := later.log
        files := later.files } := by
  rw [renderEach_cons, render_of_ok h, Script.bind, Script.run, hdraw]
  change (let outcome := (Script.print (savedLine kind chart.path)
    ((presentation.renderEach findings kinds).bind (prepend [chart.path]))).run storage after
    ({ outcome with charts := chart :: outcome.charts } : Outcome σ _)) = _
  rw [Script.run, run_bind_prepend]
  rfl

theorem run_renderEach_of_refused (h : presentation.design findings kind = .ok chart)
    (hdraw : storage.draw files chart = (false, after)) :
    (presentation.renderEach findings (kind :: kinds)).run storage files =
      ⟨.error (.unwritten chart.path), [chart], [], [], after⟩ := by
  rw [renderEach_cons, render_of_ok h, Script.bind, Script.run, hdraw]
  rfl

/-! All kinds together, up to the first refusal. -/

def charts (presentation : Presentation) (findings : Findings) (kinds : List ChartKind) :
    List Chart :=
  kinds.filterMap fun kind => (presentation.design findings kind).toOption

theorem charts_cons_of_error {event : Event}
    (h : presentation.design findings kind = .error event) :
    presentation.charts findings (kind :: kinds) = presentation.charts findings kinds := by
  have hnone : (presentation.design findings kind).toOption = none := by
    rw [h]
    rfl
  exact List.filterMap_cons_none hnone

theorem charts_cons_of_ok (h : presentation.design findings kind = .ok chart) :
    presentation.charts findings (kind :: kinds) =
      chart :: presentation.charts findings kinds := by
  have hsome : (presentation.design findings kind).toOption = some chart := by
    rw [h]
    rfl
  exact List.filterMap_cons_some hsome

def place (presentation : Presentation) (kind : ChartKind) : Path :=
  presentation.settings.file (kind.fileName presentation.settings.files)

theorem design_supported (presentation : Presentation) (findings : Findings)
    (kinds : List ChartKind) :
    (kinds.filter findings.supports).map (fun kind => presentation.design findings kind) =
        (presentation.charts findings kinds).map .ok ∧
      (presentation.charts findings kinds).map Chart.path =
        (kinds.filter findings.supports).map presentation.place := by
  induction kinds with
  | nil => exact ⟨rfl, rfl⟩
  | cons kind kinds ih =>
    rcases presentation.design_cases findings kind none with
      ⟨hsupports, hdesign⟩ | ⟨hsupports, chart, hdesign, hpath⟩
    · rw [charts_cons_of_error hdesign, List.filter_cons_of_neg (by simp [hsupports])]
      exact ih
    · rw [charts_cons_of_ok hdesign, List.filter_cons_of_pos hsupports]
      simp only [List.map_cons, hdesign, hpath, ih]
      exact ⟨trivial, rfl⟩

/-- How a run ends for these kinds when one of them may have been refused. -/
def verdict (presentation : Presentation) (shown : List ChartKind) :
    Option ChartKind → Except Failure (List Path)
  | none => .ok (shown.map presentation.place)
  | some refused => .error (.unwritten (presentation.place refused))

theorem verdict_cons (shown : List ChartKind) (refused : Option ChartKind) :
    presentation.verdict (kind :: shown) refused =
      (presentation.verdict shown refused).map (presentation.place kind :: ·) := by
  cases refused <;> rfl

theorem run_renderEach (storage : Storage σ) (presentation : Presentation) (findings : Findings)
    (hkinds : kinds.Nodup) (files : σ) :
    (presentation.renderEach findings kinds).run storage files =
      let shown := kinds.filter findings.supports
      let charts := presentation.charts findings kinds
      let n := storage.firstRefusal files charts
      let examined := kinds.takeWhile fun kind => shown[n]? ≠ some kind
      { value := presentation.verdict shown shown[n]?
        charts := charts.take (n + 1)
        printed := (shown.take n).map fun kind => savedLine kind (presentation.place kind)
        log := (examined.filter fun kind => !findings.supports kind).map findings.absence
        files := storage.afterAll files (charts.take (n + 1)) } := by
  induction kinds generalizing files with
  | nil => rfl
  | cons kind kinds ih =>
    obtain ⟨hkind, hkinds⟩ := List.nodup_cons.mp hkinds
    -- No kind comes twice: the one that is refused later on is not this one.
    have hother (i : Nat) : (kinds.filter findings.supports)[i]? ≠ some kind := fun h =>
      hkind (List.mem_filter.mp (List.mem_of_getElem? h)).1
    rcases presentation.design_cases findings kind none with
      ⟨hsupports, hdesign⟩ | ⟨hsupports, chart, hdesign, hpath⟩
    · rw [run_renderEach_of_error hdesign, ih hkinds, charts_cons_of_error hdesign,
        List.filter_cons_of_neg (by simp [hsupports])]
      dsimp only
      rw [List.takeWhile_cons_of_pos (by simp [hother]),
        List.filter_cons_of_pos (by simp [hsupports]), List.map_cons]
    · rw [charts_cons_of_ok hdesign, List.filter_cons_of_pos hsupports]
      dsimp only
      rw [Storage.firstRefusal_cons]
      cases hdraw : storage.draw files chart with
      | mk isWritten after =>
        cases isWritten with
        | true =>
          rw [run_renderEach_of_written hdesign hdraw, ih hkinds, if_pos rfl, hpath]
          simp only [List.getElem?_cons_succ, List.take_succ_cons, List.map_cons, verdict_cons,
            Storage.afterAll_cons, hdraw]
          rw [List.takeWhile_cons_of_pos (by simp [hother]),
            List.filter_cons_of_neg (by simp [hsupports])]
          rfl
        | false =>
          have hafter : storage.afterAll files [chart] = after := by
            rw [Storage.afterAll_cons, hdraw]
            rfl
          rw [run_renderEach_of_refused hdesign hdraw, if_neg Bool.false_ne_true, hpath,
            List.take_succ_cons, List.take_zero, hafter, List.takeWhile_cons_of_neg (by simp)]
          rfl

theorem renderEach_saved (storage : Storage σ) (presentation : Presentation) (findings : Findings)
    (hkinds : kinds.Nodup) (files : σ) :
    let outcome := (presentation.renderEach findings kinds).run storage files
    ∃ saved : List ChartKind,
      outcome.printed = saved.map (fun kind => savedLine kind (presentation.place kind)) ∧
      saved.map presentation.place = (storage.written files outcome.charts).map Chart.path := by
  rw [run_renderEach storage presentation findings hkinds]
  refine ⟨_, rfl, ?_⟩
  rw [Storage.written_take_firstRefusal, List.map_take, List.map_take,
    (presentation.design_supported findings kinds).2]

def opening (report : Path) : String :=
  "Parsing results from " ++ report.text ++ "...\n"

def closing : String :=
  "\nAll plots generated successfully!\n"

def conclude : Except Failure (List Path) → Script (Except Failure (List Path))
  | .error failure => .done (.error failure)
  | .ok paths => .log [finishing paths] (.print closing (.done (.ok paths)))

theorem run_conclude (value : Except Failure (List Path)) (files : σ) :
    (conclude value).run storage files =
      { value
        charts := []
        printed := value.toOption.toList.map fun _ => closing
        log := value.toOption.toList.map finishing
        files } := by
  cases value <;> rfl

theorem plotReport_eq (presentation : Presentation) (report : Path) :
    presentation.plotReport report =
      .print (opening report) (.read report fun answer =>
        match answer with
        | .error error => .done (.error (.unreadable report error))
        | .ok text =>
          let parsed := presentation.wording.read text
          .log parsed.log ((presentation.renderAll parsed.value).bind conclude)) := by
  refine congrArg (Script.print _) (congrArg (Script.read report) (funext fun answer => ?_))
  cases answer with
  | error error => rfl
  | ok text =>
    refine congrArg (Script.log _) ?_
    refine congrArg (Script.bind (presentation.renderAll _)) (funext fun answer => ?_)
    cases answer <;> rfl

theorem run_plotReport_of_error {report : Path} {error : ReadError}
    (h : storage.read files report = .error error) :
    (presentation.plotReport report).run storage files =
      ⟨.error (.unreadable report error), [], [opening report], [], files⟩ := by
  rw [plotReport_eq, Script.run, Script.run, h]
  rfl

theorem run_plotReport_of_ok {report : Path} {text : String}
    (h : storage.read files report = .ok text) :
    (presentation.plotReport report).run storage files =
      let parsed := presentation.wording.read text
      let drawn := (presentation.renderAll parsed.value).run storage files
      { value := drawn.value
        charts := drawn.charts
        printed :=
          opening report :: drawn.printed ++ drawn.value.toOption.toList.map fun _ => closing
        log := parsed.log ++ drawn.log ++ drawn.value.toOption.toList.map finishing
        files := drawn.files } := by
  rw [plotReport_eq, Script.run, Script.run, h]
  dsimp only
  rw [Script.run, Script.run_bind]
  dsimp only
  rw [run_conclude]
  simp [Outcome.followedBy]

end Presentation

end ContentionCharts
