import ContentionCharts.Program
import ContentionCharts.Proofs.CommandLine
import ContentionCharts.Proofs.Session

/-!
What the program does with its arguments, whatever it is asked to log. It plots exactly if they name
a report, and then that one; in every other case it says what the usage is, gives help or refuses
the arguments, and neither reads the report nor touches any file.
-/
namespace ContentionCharts

open ContentionCharts.CommandLine

variable {σ : Type} {storage : Storage σ} {arguments : List String} {level : Option String}
  {verbosity : Verbosity} {files : σ}

def endingOf : Except Failure (List Path) → Ending
  | .ok _ => { code := 0 }
  | .error failure => { code := 1, complaint := "Error: " ++ failure.message ++ "\n" }

theorem plotting_eq (report : String) :
    plotting report =
      (Presentation.plotReport {} ⟨report⟩).bind fun result => .done (endingOf result) := by
  refine congrArg (Script.bind _) (funext fun result => ?_)
  cases result <;> rfl

theorem run_plotting (report : String) (files : σ) :
    (plotting report).run storage files =
      let plotted := (Presentation.plotReport {} ⟨report⟩).run storage files
      { plotted with value := endingOf plotted.value } := by
  rw [plotting_eq, Script.run_bind]
  simp [Script.run, Outcome.followedBy]

theorem pathsRead_plotReport (presentation : Presentation) (report : Path) (files : σ) :
    (presentation.plotReport report).pathsRead storage files = [report] := by
  rw [Presentation.plotReport_eq, Script.pathsRead, Script.pathsRead]
  cases storage.read files report with
  | error error => rfl
  | ok text =>
    have hdrawing := Presentation.strict_renderEach presentation
      (presentation.wording.read text).value ChartKind.all
    have hrest : ((presentation.renderAll (presentation.wording.read text).value).bind
        Presentation.conclude).Strict _ :=
      hdrawing.bind (fun _ => rfl) fun _ => .log _ (.print _ (.done _))
    exact congrArg (report :: ·) (hrest.pathsRead_eq_nil files)

/-! Arguments, one meaning at a time. -/

theorem run_program_of_plot {report : String} (hlevel : verbosity? level = some verbosity)
    (h : parse arguments = .ok (.plot report)) :
    (program arguments level).run storage files =
      let plotted := (Presentation.plotReport {} ⟨report⟩).run storage files
      { plotted with
        value := endingOf plotted.value
        log := plotted.log.filter (Directive.admits (directives verbosity)) } := by
  unfold program
  rw [h, hlevel]
  dsimp only
  rw [Script.run_admitting, run_plotting]

theorem pathsRead_program_of_plot {report : String} (hlevel : verbosity? level = some verbosity)
    (h : parse arguments = .ok (.plot report)) :
    (program arguments level).pathsRead storage files = [⟨report⟩] := by
  unfold program
  rw [h, hlevel]
  dsimp only
  rw [Script.pathsRead_admitting, plotting_eq, Script.pathsRead_bind, pathsRead_plotReport]
  rfl

theorem run_program_of_usage (hlevel : verbosity? level = some verbosity)
    (h : parse arguments = .ok .usage) :
    (program arguments level).run storage files =
        ⟨{ code := 1 }, [], [usageLine], [], files⟩ ∧
      (program arguments level).pathsRead storage files = [] := by
  unfold program
  rw [h, hlevel]
  exact ⟨rfl, rfl⟩

theorem run_program_of_isAside {result : Except ArgumentError Request} (level : Option String)
    (hresult : parse arguments = result) (h : IsAside result) :
    ∃ ending printed,
      (program arguments level).run storage files = ⟨ending, [], printed, [], files⟩ ∧
      (program arguments level).pathsRead storage files = [] ∧
      (ending.code = 0 ∧ printed = [helpText] ∨ ending.code = 2 ∧ printed = []) := by
  unfold program
  rw [hresult]
  rcases h with rfl | ⟨error, rfl⟩
  · exact ⟨_, _, rfl, rfl, .inl ⟨rfl, rfl⟩⟩
  · exact ⟨_, _, rfl, rfl, .inr ⟨rfl, rfl⟩⟩

/-! Lines of the output, told apart by their first characters. -/

theorem head?_toList_append {first : String} (rest : String) {c : Char}
    (h : first.toList.head? = some c) : (first ++ rest).toList.head? = some c := by
  rw [String.toList_append, List.head?_append, h]
  rfl

theorem head?_opening (report : Path) :
    (Presentation.opening report).toList.head? = some 'P' :=
  head?_toList_append _ (head?_toList_append _ rfl)

theorem head?_helpText : helpText.toList.head? = some 'R' :=
  head?_toList_append _ (head?_toList_append _ (head?_toList_append _ rfl))

theorem opening_ne {report : Path} {line : String} {c : Char} (h : line.toList.head? = some c)
    (hc : c ≠ 'P') : Presentation.opening report ≠ line := by
  rintro rfl
  rw [head?_opening] at h
  exact hc (Option.some.inj h).symm

theorem opening_inj {report other : Path}
    (h : Presentation.opening report = Presentation.opening other) : report = other := by
  have hchars := congrArg String.toList h
  unfold Presentation.opening at hchars
  rw [String.toList_append, String.toList_append, String.toList_append, String.toList_append,
    List.append_left_inj, List.append_right_inj, String.toList_inj] at hchars
  cases report
  cases other
  exact congrArg Path.mk hchars

theorem exists_printed_eq (storage : Storage σ) (presentation : Presentation) (report : Path)
    (files : σ) :
    ∃ later, ((presentation.plotReport report).run storage files).printed =
        Presentation.opening report :: later ∧
      ∀ line ∈ later, line.toList.head? = some 'S' ∨ line.toList.head? = some '\n' := by
  cases hread : storage.read files report with
  | error error =>
    rw [Presentation.run_plotReport_of_error hread]
    exact ⟨[], rfl, nofun⟩
  | ok text =>
    have hkinds : ChartKind.all.Nodup := by decide
    obtain ⟨saved, hprinted, _⟩ := Presentation.renderEach_saved storage presentation
      (presentation.wording.read text).value hkinds files
    rw [Presentation.run_plotReport_of_ok hread]
    refine ⟨_, rfl, fun line hline => ?_⟩
    rcases List.mem_append.mp hline with hsaved | hclosing
    · have hdrawn : line ∈ saved.map fun kind =>
          Presentation.savedLine kind (presentation.place kind) := hprinted ▸ hsaved
      obtain ⟨kind, _, rfl⟩ := List.mem_map.mp hdrawn
      left
      unfold Presentation.savedLine
      exact head?_toList_append _ (head?_toList_append _ (head?_toList_append _
        (head?_toList_append _ rfl)))
    · obtain ⟨_, _, rfl⟩ := List.mem_map.mp hclosing
      exact .inr rfl

theorem mem_printed_plotReport {presentation : Presentation} {report : Path} {line : String}
    (h : line ∈ ((presentation.plotReport report).run storage files).printed) :
    line = Presentation.opening report ∨
      line.toList.head? = some 'S' ∨ line.toList.head? = some '\n' := by
  obtain ⟨later, hprinted, hlater⟩ := exists_printed_eq storage presentation report files
  rw [hprinted] at h
  exact (List.mem_cons.mp h).imp_right (hlater line)

theorem opening_mem_printed_iff {presentation : Presentation} {report other : Path} :
    Presentation.opening other ∈ ((presentation.plotReport report).run storage files).printed ↔
      other = report := by
  constructor
  · intro h
    rcases mem_printed_plotReport h with hopening | hsaved | hclosing
    · exact opening_inj hopening
    · exact absurd rfl (opening_ne hsaved (by decide))
    · exact absurd rfl (opening_ne hclosing (by decide))
  · rintro rfl
    obtain ⟨later, hprinted, _⟩ := exists_printed_eq storage presentation other files
    exact hprinted ▸ List.mem_cons_self

theorem usageLine_notMem_printed (presentation : Presentation) (report : Path) :
    usageLine ∉ ((presentation.plotReport report).run storage files).printed := by
  intro h
  rcases mem_printed_plotReport h with hopening | hsaved | hclosing
  · exact opening_ne (c := 'U') rfl (by decide) hopening.symm
  · exact absurd hsaved (by decide)
  · exact absurd hclosing (by decide)

theorem code_endingOf (result : Except Failure (List Path)) :
    (endingOf result).code = if result.isOk then 0 else 1 := by
  cases result <;> rfl

/-- What comes of a list of arguments, at any valid setting of the log. -/
theorem program_outcome (hlevel : verbosity? level = some verbosity) (arguments : List String)
    (storage : Storage σ) (files : σ) :
    let outcome := (program arguments level).run storage files
    let reads := (program arguments level).pathsRead storage files
    (∀ report, Presentation.opening ⟨report⟩ ∈ outcome.printed ↔ Names arguments report) ∧
      (∀ report, Names arguments report →
        let plotted := (Presentation.plotReport {} ⟨report⟩).run storage files
        reads = [⟨report⟩] ∧ outcome.printed = plotted.printed ∧
          outcome.charts = plotted.charts ∧ outcome.files = plotted.files ∧
          outcome.value.code = if plotted.value.isOk then 0 else 1) ∧
      (usageLine ∈ outcome.printed ↔ AsksForUsage arguments) ∧
      (AsksForUsage arguments → outcome.printed = [usageLine] ∧ outcome.value.code = 1) ∧
      ((∀ report, ¬Names arguments report) →
        reads = [] ∧ outcome.charts = [] ∧ outcome.files = files ∧
          (AsksForUsage arguments ∨
            outcome.value.code = 0 ∧ outcome.printed = [helpText] ∨
            outcome.value.code = 2 ∧ outcome.printed = [])) := by
  intro outcome reads
  generalize hresult : parse arguments = result
  have hmeaning := hresult ▸ meaning_parse arguments
  cases hmeaning with
  | usage husage =>
    have hnames (report : String) : ¬Names arguments report := fun h => h.not_asksForUsage husage
    obtain ⟨houtcome, hreads⟩ : outcome = _ ∧ reads = [] := run_program_of_usage hlevel hresult
    rw [houtcome]
    refine ⟨fun report => iff_of_false (fun h => ?_) (hnames report),
      fun report h => absurd h (hnames report),
      iff_of_true (List.mem_singleton_self _) husage, fun _ => ⟨rfl, rfl⟩,
      fun _ => ⟨hreads, rfl, rfl, .inl husage⟩⟩
    exact opening_ne (c := 'U') rfl (by decide) (List.mem_singleton.mp h)
  | @plot report hnames =>
    have houtcome : outcome = _ := run_program_of_plot hlevel hresult
    have hreads : reads = [⟨report⟩] := pathsRead_program_of_plot hlevel hresult
    rw [houtcome]
    refine ⟨fun other => ?_, fun other hother => ?_,
      iff_of_false (usageLine_notMem_printed _ _) hnames.not_asksForUsage,
      fun husage => absurd husage hnames.not_asksForUsage, fun h => absurd hnames (h report)⟩
    · rw [opening_mem_printed_iff]
      constructor
      · rintro ⟨⟩
        exact hnames
      · exact fun hother => congrArg Path.mk (hother.unique hnames)
    · cases hother.unique hnames
      exact ⟨hreads, rfl, rfl, rfl, code_endingOf _⟩
  | aside husage hnames haside =>
    obtain ⟨ending, printed, houtcome, hreads, hending⟩ :
        ∃ ending printed, outcome = ⟨ending, [], printed, [], files⟩ ∧ reads = [] ∧ _ :=
      run_program_of_isAside level hresult haside
    have hline {line : String} (h : line ∈ printed) : line = helpText := by
      rcases hending with ⟨_, rfl⟩ | ⟨_, rfl⟩
      · exact List.mem_singleton.mp h
      · exact absurd h List.not_mem_nil
    rw [houtcome]
    refine ⟨fun report => iff_of_false (fun h => ?_) (hnames report),
      fun report h => absurd h (hnames report), iff_of_false (fun h => ?_) husage,
      fun h => absurd h husage, fun _ => ⟨hreads, rfl, rfl, .inr hending⟩⟩
    · exact opening_ne head?_helpText (by decide) (hline h)
    · have hfirst : usageLine.toList.head? = some 'R' := hline h ▸ head?_helpText
      exact absurd hfirst (by decide)

/-- A report that looks like an option, and is not there. -/
theorem program_outcome_escaped :
    let storage : Storage Unit := ⟨fun _ _ => .error .notFound, fun _ _ => (false, ())⟩
    let outcome := (program ["--", "-x"] (some "trace")).run storage ()
    Presentation.opening ⟨"-x"⟩ ∈ outcome.printed ∧ usageLine ∉ outcome.printed ∧
      outcome.charts = [] ∧ outcome.value.code = 1 := by
  intro storage outcome
  have hread : storage.read () ⟨"-x"⟩ = .error .notFound := rfl
  have hlevel : verbosity? (some "trace") = some ⟨5⟩ := by decide
  have hnames : Names ["--", "-x"] "-x" := .escaped (by decide)
  obtain ⟨hopening, hplotted, husage, _⟩ := program_outcome hlevel ["--", "-x"] storage ()
  obtain ⟨_, _, hcharts, _, hcode⟩ := hplotted "-x" hnames
  rw [Presentation.run_plotReport_of_error hread] at hcharts hcode
  exact ⟨(hopening "-x").mpr hnames, fun h => hnames.not_asksForUsage (husage.mp h), hcharts, hcode⟩

end ContentionCharts
