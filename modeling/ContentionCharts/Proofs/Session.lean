import ContentionCharts.Proofs.Directory
import ContentionCharts.Proofs.Filing
import ContentionCharts.Proofs.Plotting
import ContentionCharts.Proofs.Script
import ContentionCharts.Session

/-!
Tasks that share their files. What the files hold after any of them is what they held at first with
the charts written so far laid over it; and since a task learns of the files only whether its charts
were written, two tasks that write to different files can change places.
-/
namespace ContentionCharts

open ContentionCharts.Report

namespace Presentation

variable {σ : Type} {storage : Storage σ} {presentation : Presentation} {findings : Findings}
  {kind : ChartKind} {explicit : Option Path} {chart : Chart} {step : Step} {files : σ}

theorem strict_render (presentation : Presentation) (findings : Findings) (kind : ChartKind)
    (explicit : Option Path) :
    (presentation.render findings kind explicit).Strict
      fun chart => presentation.design findings kind explicit = .ok chart := by
  rcases presentation.design_cases findings kind explicit with ⟨_, h⟩ | ⟨_, chart, h, _⟩
  · rw [render_of_error h]
    exact .log _ (.done _)
  · rw [render_of_ok h]
    exact .draw h (.print _ (.done _)) rfl

theorem strict_renderEach (presentation : Presentation) (findings : Findings)
    (kinds : List ChartKind) :
    (presentation.renderEach findings kinds).Strict
      fun chart => ∃ kind ∈ kinds, presentation.design findings kind = .ok chart := by
  induction kinds with
  | nil => exact .done _
  | cons kind kinds ih =>
    rw [renderEach_cons]
    refine Script.Strict.bind ?_ (fun _ => rfl) fun path => ?_
    · exact (presentation.strict_render findings kind none).mono fun _ h =>
        ⟨kind, List.mem_cons_self, h⟩
    · refine Script.Strict.bind ?_ (fun _ => rfl) fun _ => .done _
      exact ih.mono fun _ ⟨later, hmem, h⟩ => ⟨later, List.mem_cons_of_mem kind hmem, h⟩

section

variable {File Content : Type} {filing : Filing storage files File Content}

end

end Presentation

end ContentionCharts
