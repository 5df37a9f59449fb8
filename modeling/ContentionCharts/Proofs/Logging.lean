import ContentionCharts.Proofs.Program
import ContentionCharts.Proofs.Verbosity

/-!
How much is logged does not matter to anything but the log. The directives ask the same of every
part of the program, and no part is left out; so every log is the complete one, restricted to the
levels that its setting admits.
-/
namespace ContentionCharts

open ContentionCharts.CommandLine

namespace Directive

variable {directives : List Directive} {verbosity : Verbosity} {event : Event}

theorem narrowest?_cases (directives : List Directive) :
    directives = [] ∧ narrowest? directives = none ∨
      ∃ directive ∈ directives, narrowest? directives = some directive := by
  induction directives with
  | nil => exact .inl ⟨rfl, rfl⟩
  | cons directive directives ih =>
    right
    unfold narrowest?
    rcases ih with ⟨_, hnone⟩ | ⟨other, hmem, hsome⟩
    · rw [hnone]
      exact ⟨directive, List.mem_cons_self, rfl⟩
    · rw [hsome]
      dsimp only
      split
      · exact ⟨directive, List.mem_cons_self, rfl⟩
      · exact ⟨other, List.mem_cons_of_mem _ hmem, rfl⟩

/-- Directives that all ask for the same can only differ in what they leave out. -/
theorem admits_eq (hsame : ∀ directive ∈ directives, directive.verbosity = verbosity)
    (hconcerned : ∃ directive ∈ directives, directive.concerns event.origin) :
    admits directives event = verbosity.admits event := by
  unfold admits
  rcases narrowest?_cases (directives.filter fun directive => directive.concerns event.origin) with
    ⟨hnil, _⟩ | ⟨directive, hmem, hsome⟩
  · obtain ⟨directive, hmem, hconcerns⟩ := hconcerned
    exact absurd hconcerns (List.filter_eq_nil_iff.mp hnil directive hmem)
  · rw [hsome, Option.any_some, hsame directive (List.mem_filter.mp hmem).1]

end Directive

theorem exists_scope (origin : Origin) :
    ∃ scope ∈ scopes, scope.toList.isPrefixOf origin.name.toList := by
  cases origin <;> decide

theorem admits_directives (verbosity : Verbosity) :
    Directive.admits (directives verbosity) = verbosity.admits := by
  funext event
  apply Directive.admits_eq
  · intro directive hdirective
    obtain ⟨scope, _, rfl⟩ := List.mem_map.mp hdirective
    rfl
  · obtain ⟨scope, hscope, hname⟩ := exists_scope event.origin
    exact ⟨_, List.mem_map_of_mem hscope, hname⟩

theorem filter_admits_of_trace (events : List Event) :
    events.filter (Verbosity.mk Level.trace.rank).admits = events := by
  refine List.filter_eq_self.mpr fun event _ => ?_
  unfold Verbosity.admits
  cases event.level <;> rfl

section

variable {σ : Type} {storage : Storage σ} {arguments : List String} {level : Option String}
  {levels : List Level} {files : σ}

theorem program_eq_of_isAside {result : Except ArgumentError Request}
    (hresult : parse arguments = result) (h : IsAside result) (level other : Option String) :
    program arguments level = program arguments other := by
  unfold program
  rw [hresult]
  rcases h with rfl | ⟨error, rfl⟩
  · rfl
  · rfl

theorem verbosity?_trace : verbosity? (some "trace") = some ⟨Level.trace.rank⟩ := by
  decide

/-- Every run is the one at the level that admits all, with a shorter log. -/
theorem run_program (hlevels : AsksFor level levels) (arguments : List String)
    (storage : Storage σ) (files : σ) :
    (program arguments level).run storage files =
      let complete := (program arguments (some "trace")).run storage files
      { complete with log := complete.log.filter fun event => event.level ∈ levels } := by
  have hlevel := verbosity?_of_asksFor hlevels
  generalize hresult : parse arguments = result
  have hmeaning := hresult ▸ meaning_parse arguments
  cases hmeaning with
  | usage =>
    rw [(run_program_of_usage hlevel hresult).1, (run_program_of_usage verbosity?_trace hresult).1]
    rfl
  | plot =>
    rw [run_program_of_plot hlevel hresult, run_program_of_plot verbosity?_trace hresult,
      admits_directives, admits_directives, funext (admits_of_asksFor hlevels)]
    dsimp only
    rw [filter_admits_of_trace]
  | aside _ _ haside =>
    obtain ⟨ending, printed, houtcome, _⟩ :=
      run_program_of_isAside (some "trace") hresult haside
    rw [program_eq_of_isAside hresult haside level (some "trace"), houtcome]
    rfl

theorem log_of_plot {report : String} (h : parse arguments = .ok (.plot report)) :
    ((program arguments (some "trace")).run storage files).log =
      ((Presentation.plotReport {} ⟨report⟩).run storage files).log := by
  rw [run_program_of_plot verbosity?_trace h, admits_directives]
  exact filter_admits_of_trace _

end

variable {σ : Type} {storage : Storage σ} {quiet loud : Option String} {fewer more : List Level}

/-- Two runs that are told to log differently differ in their logs only. The shorter log is the
other one, restricted to the levels that it admits; and at the level that admits all, a log has
every event, of the scanner and the parsers first, then of the charts, then of the whole. The
settings that ask for levels are all settings that the program takes. -/
theorem program_log_only (hquiet : AsksFor quiet fewer) (hloud : AsksFor loud more)
    (arguments : List String) (storage : Storage σ) (files : σ) :
    let first := (program arguments quiet).run storage files
    let second := (program arguments loud).run storage files
    (first.value = second.value ∧ first.printed = second.printed ∧
        first.charts = second.charts ∧ first.files = second.files) ∧
      (fewer ⊆ more → first.log = second.log.filter fun event => event.level ∈ fewer) ∧
      (Level.trace ∈ more → ∀ report, Names arguments report →
        second.log =
          match storage.read files ⟨report⟩ with
          | .error _ => []
          | .ok text =>
            let parsed := Report.Wording.read {} text
            let drawn := (Presentation.renderAll {} parsed.value).run storage files
            parsed.log ++ drawn.log ++
              drawn.value.toOption.toList.map Presentation.finishing) ∧
      ∀ setting, (verbosity? setting).isSome ↔ ∃ levels, AsksFor setting levels := by
  intro first second
  have hfirst : first = _ := run_program hquiet arguments storage files
  have hsecond : second = _ := run_program hloud arguments storage files
  refine ⟨?same, ?restricted, ?complete, ?settings⟩
  case same =>
    rw [hfirst, hsecond]
    exact ⟨rfl, rfl, rfl, rfl⟩
  case restricted =>
    intro hsubset
    rw [hfirst, hsecond]
    dsimp only
    rw [List.filter_filter]
    refine List.filter_congr fun event _ => ?_
    rw [← Bool.decide_and, decide_eq_decide]
    exact (and_iff_left_of_imp fun hfewer => hsubset hfewer).symm
  case complete =>
    intro htrace report hnames
    have hall : ∀ event ∈ ((program arguments (some "trace")).run storage files).log,
        decide (event.level ∈ more) = true := by
      intro event _
      rw [eq_all_of_asksFor hloud htrace]
      cases event.level <;> rfl
    rw [hsecond]
    dsimp only
    rw [List.filter_eq_self.mpr hall, log_of_plot hnames.parse_eq]
    cases hread : storage.read files ⟨report⟩ with
    | error error => rw [Presentation.run_plotReport_of_error hread]
    | ok text => rw [Presentation.run_plotReport_of_ok hread]
  case settings =>
    intro setting
    constructor
    · intro h
      obtain ⟨verbosity, hverbosity⟩ := Option.isSome_iff_exists.mp h
      exact exists_asksFor hverbosity
    · rintro ⟨levels, hlevels⟩
      rw [verbosity?_of_asksFor hlevels]
      rfl

/-- A report with a row that is not one. Nothing of it is logged without a setting, and everything
at the level that admits all. -/
theorem program_log_only_unset :
    let storage : Storage Unit :=
      ⟨fun _ _ => .ok "Threads | simple_mutex_t\nabc | 1 | 2", fun _ _ => (false, ())⟩
    let first := (program ["report.txt", "--"] none).run storage ()
    let second := (program ["report.txt", "--"] (some "Trace,")).run storage ()
    first.printed = second.printed ∧ first.log = [] ∧
      second.log.map Event.line =
        ["TRACE common::table: Discarding row \"abc | 1 | 2\": field 0 is not numeric: \"abc\"",
          "DEBUG simple_mutex::result: Parsed 0 throughput rows",
          "DEBUG simple_mutex::result: Parsed fairness",
          "DEBUG simple_mutex::result: Parsed 0 critical section rows",
          "DEBUG simple_mutex_basic: No throughput data",
          "DEBUG simple_mutex_basic: No throughput data to normalize",
          "DEBUG simple_mutex_basic: No fairness data",
          "DEBUG simple_mutex_basic: No critical section data",
          "DEBUG mutex_plots::plot: Wrote 0 charts"] := by
  intro storage first second
  have hword : WordAsksFor "Trace".toList Level.all :=
    .name (show ("trace", Level.all) ∈ levelsByName by decide) (by decide)
  have htrace : AsksFor (some "Trace,") Level.all :=
    .closed (show "Trace,".toList = "Trace".toList ++ ',' :: [] from rfl) hword rfl
  have hnames : Names ["report.txt", "--"] "report.txt" := .closed (by decide) (.inr (by decide))
  obtain ⟨⟨_, hprinted, _⟩, hrestricted, hcomplete, _⟩ :=
    program_log_only .unset htrace ["report.txt", "--"] storage ()
  have hshort : first.log = _ := hrestricted (by decide)
  have hlog : second.log = _ := hcomplete (by decide) "report.txt" hnames
  refine ⟨hprinted, ?_, ?_⟩
  · rw [hshort, hlog]
    decide +kernel
  · rw [hlog]
    decide +kernel

end ContentionCharts
