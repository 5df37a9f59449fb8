import ContentionCharts.Proofs.Table.Fields
import ContentionCharts.Proofs.Table.Scan

/-!
Ruled lines and rows. A line of dashes, joints and blanks has no digit, so it never reads as a row.
A reader that does not know ruled lines takes those of a table for noise and says so; its rows are
the same, wherever the table ends.
-/
namespace ContentionCharts.Table

open ContentionCharts.Text

theorem Row.ofLine_of_joints (minFields : Nat) {line : List Char}
    (joints : ∀ c ∈ line, c = '-' ∨ c = '|' ∨ c = '+' ∨ isBlank c) :
    ∃ fault, Row.ofLine minFields line = .error fault := by
  cases hread : Row.ofLine minFields line with
  | error fault => exact ⟨fault, rfl⟩
  | ok row =>
    obtain ⟨c, hc, hdigit⟩ := exists_digit_of_ofLine hread
    have hjoint := not_joint_of_isDigit hdigit
    rcases joints c hc with rfl | rfl | rfl | hblank
    · contradiction
    · contradiction
    · contradiction
    · rw [isBlank_eq_false_of_isDigit hdigit] at hblank
      contradiction

def LineClass.isSeparator : LineClass → Bool
  | separator => true
  | _ => false

namespace Spec

/-! Reading a table with the lines classed by any rule. -/

def stepBy (spec : Spec) (classOf : List Char → LineClass) : Phase → List Char → Phase × Verdict
  | .seeking, line =>
    if occursIn spec.marker.toList line then (.headed, .skipped) else (.seeking, .skipped)
  | .ended, _ => (.ended, .stopped)
  | phase, line =>
    match classOf line with
    | .data row => (.filled, .row row)
    | .noise fault => (phase, .discarded fault)
    | .blank =>
      if phase = .filled ∧ spec.termination = .blankLine then (.ended, .stopped)
      else (phase, .skipped)
    | .header | .separator => (phase, .skipped)

def readBy (spec : Spec) (classOf : List Char → LineClass) :
    Phase → List (List Char) → Logged (List Row)
  | _, [] => ⟨[], []⟩
  | phase, line :: rest =>
    let step := spec.stepBy classOf phase line
    let later := spec.readBy classOf step.1 rest
    ⟨step.2.rows ++ later.value, step.2.events line ++ later.log⟩

variable {spec : Spec} {classOf : List Char → LineClass} {phase : Phase}

theorem stepBy_classOf (spec : Spec) : spec.stepBy spec.classOf = spec.step := by
  funext phase line
  cases phase <;> rfl

def eventBy? (classOf : List Char → LineClass) (line : List Char) : Option Event :=
  (classOf line).fault?.map (discarding line)

theorem stepBy_inTable (line : List Char) (inTable : phase = .headed ∨ phase = .filled)
    (goesOn : phase = .filled → spec.termination = .blankLine →
      (classOf line).isBlank = false) :
    (spec.stepBy classOf phase line).1 =
        (if (classOf line).row?.isSome then .filled else phase) ∧
      (spec.stepBy classOf phase line).2.rows = (classOf line).row?.toList ∧
      (spec.stepBy classOf phase line).2.events line = (eventBy? classOf line).toList := by
  rcases inTable with rfl | rfl <;> cases hclass : classOf line <;>
    simp_all [stepBy, eventBy?, LineClass.row?, LineClass.fault?, LineClass.isBlank,
      Verdict.rows, Verdict.events]

theorem stepBy_closing {line : List Char} (stops : spec.termination = .blankLine)
    (blank : (classOf line).isBlank) : spec.stepBy classOf .filled line = (.ended, .stopped) := by
  cases hclass : classOf line <;> simp_all [stepBy, LineClass.isBlank]

theorem readBy_inTable_cons (line : List Char) (rest : List (List Char))
    (inTable : phase = .headed ∨ phase = .filled)
    (goesOn : phase = .filled → spec.termination = .blankLine →
      (classOf line).isBlank = false) :
    spec.readBy classOf phase (line :: rest) =
      let later := spec.readBy classOf (if (classOf line).row?.isSome then .filled else phase) rest
      ⟨(classOf line).row?.toList ++ later.value,
        (eventBy? classOf line).toList ++ later.log⟩ := by
  obtain ⟨hphase, hrows, hevents⟩ := stepBy_inTable line inTable goesOn
  rw [readBy, hphase, hrows, hevents]

/-- As long as the same lines are rows and the same are blank, the same lines belong to the table:
its rows are the same, and each line that is classed as noise has its event. -/
theorem readBy_eq (sameRow : ∀ line, (classOf line).row? = (spec.classOf line).row?)
    (sameBlank : ∀ line, (classOf line).isBlank = spec.isBlankLine line) (phase : Phase)
    (lines : List (List Char)) :
    spec.readBy classOf phase lines =
      ⟨spec.rowsIn (spec.remaining phase lines),
        (spec.remaining phase lines).filterMap (eventBy? classOf)⟩ := by
  induction lines generalizing phase with
  | nil =>
    rw [remaining_nil]
    rfl
  | cons line rest ih =>
    -- With or without a row so far, a line is taken alike unless it ends the table.
    have hinTable (inTable : phase = .headed ∨ phase = .filled)
        (goesOn : phase = .filled → spec.termination = .blankLine →
          spec.isBlankLine line = false) :
        spec.readBy classOf phase (line :: rest) =
          ⟨spec.rowsIn (spec.remaining phase (line :: rest)),
            (spec.remaining phase (line :: rest)).filterMap (eventBy? classOf)⟩ := by
      have hevents (below : List (List Char)) : (line :: below).filterMap (eventBy? classOf) =
          (eventBy? classOf line).toList ++ below.filterMap (eventBy? classOf) := by
        cases hline : eventBy? classOf line <;> simp [hline]
      rw [readBy_inTable_cons line rest inTable (by rwa [sameBlank]), sameRow, ih,
        remaining_inTable_cons rest inTable goesOn, rowsIn_cons, hevents]
      rfl
    cases phase with
    | seeking =>
      rw [remaining_seeking_cons, readBy, stepBy]
      split <;> exact ih _
    | headed => exact hinTable (.inl rfl) nofun
    | filled =>
      by_cases hstop : spec.termination = .blankLine ∧ spec.isBlankLine line
      · rw [remaining_filled_cons, if_pos hstop, readBy,
          stepBy_closing hstop.1 ((sameBlank line).trans hstop.2)]
        exact ih .ended
      · refine hinTable (.inr rfl) fun _ hterm => ?_
        rw [Bool.eq_false_iff]
        exact fun hblank => hstop ⟨hterm, hblank⟩
    | ended => exact ih .ended

/-! Reading without the test for ruled lines. -/

/-- The first class that fits, as in `Spec.classOf`, if no line counts as ruled. -/
def classWithoutRules (spec : Spec) (line : List Char) : LineClass :=
  let text := trim line
  if text.isEmpty then .blank
  else if spec.isHeader text then .header
  else
    match Row.ofLine spec.minFields text with
    | .ok row => .data row
    | .error fault => .noise fault

theorem classWithoutRules_cases (spec : Spec) (line : List Char) :
    ((spec.classOf line).isSeparator = false ∧
        spec.classWithoutRules line = spec.classOf line) ∨
      spec.classOf line = .separator ∧ ∃ fault,
        Row.ofLine spec.minFields (trim line) = .error fault ∧
          spec.classWithoutRules line = .noise fault := by
  unfold classOf classWithoutRules
  dsimp only
  by_cases hblank : (trim line).isEmpty
  · rw [if_pos hblank, if_pos hblank]
    exact .inl ⟨rfl, rfl⟩
  rw [if_neg hblank, if_neg hblank]
  by_cases hheader : spec.isHeader (trim line)
  · rw [if_pos hheader, if_pos hheader]
    exact .inl ⟨rfl, rfl⟩
  rw [if_neg hheader, if_neg hheader]
  cases hread : Row.ofLine spec.minFields (trim line) with
  | ok row =>
    rw [isRule_eq_false_of_ofLine hread]
    exact .inl ⟨rfl, rfl⟩
  | error fault =>
    cases isRule (trim line) with
    | true => exact .inr ⟨rfl, fault, rfl, rfl⟩
    | false => exact .inl ⟨rfl, rfl⟩

theorem row?_classWithoutRules (spec : Spec) (line : List Char) :
    (spec.classWithoutRules line).row? = (spec.classOf line).row? := by
  rcases spec.classWithoutRules_cases line with ⟨-, hsame⟩ | ⟨hrule, fault, -, hnoise⟩
  · rw [hsame]
  · rw [hrule, hnoise]
    rfl

theorem isBlank_classWithoutRules (spec : Spec) (line : List Char) :
    (spec.classWithoutRules line).isBlank = spec.isBlankLine line := by
  unfold isBlankLine
  rcases spec.classWithoutRules_cases line with ⟨-, hsame⟩ | ⟨hrule, fault, -, hnoise⟩
  · rw [hsame]
  · rw [hrule, hnoise]
    rfl

theorem eventBy?_classOf (spec : Spec) (line : List Char) :
    eventBy? spec.classOf line =
      if (spec.classOf line).isSeparator then none else eventBy? spec.classWithoutRules line := by
  unfold eventBy?
  rcases spec.classWithoutRules_cases line with ⟨hno, hsame⟩ | ⟨hrule, -⟩
  · rw [hno, hsame]
    rfl
  · rw [hrule]
    rfl

theorem discardsIn_eq_filter (spec : Spec) (lines : List (List Char)) :
    spec.discardsIn lines =
      (lines.filter fun line => !(spec.classOf line).isSeparator).filterMap
        (eventBy? spec.classWithoutRules) := by
  have hevents : spec.discardsIn lines = lines.filterMap (eventBy? spec.classOf) := rfl
  rw [hevents, List.filterMap_filter]
  apply List.filterMap_congr
  intro line _
  rw [eventBy?_classOf]
  cases (spec.classOf line).isSeparator <;> rfl

end Spec

/-- Dashes, joints and blanks never make a row, whatever is asked of one. So nothing is lost by the
test for ruled lines: a reader without it, a step of which differs in the class of the line only,
finds the same rows in every text. What it says besides is one event for each ruled line among the
lines of the table. -/
theorem scan_without_rules (spec : Spec) (text : String) :
    let kept := spec.body (spec.belowHeader (lines text.toList))
    let unruled := spec.readBy spec.classWithoutRules .seeking (lines text.toList)
    (∀ minFields line, (∀ c ∈ line, c = '-' ∨ c = '|' ∨ c = '+' ∨ isBlank c) →
      ∃ fault, Row.ofLine minFields line = .error fault) ∧
    (∀ minFields line row, Row.ofLine minFields line = .ok row → isRule line = false) ∧
    spec.stepBy spec.classOf = spec.step ∧
    spec.readBy spec.classOf .seeking (lines text.toList) = spec.scan text ∧
    unruled.value = (spec.scan text).value ∧
    unruled.log = kept.filterMap (Spec.eventBy? spec.classWithoutRules) ∧
    (spec.scan text).log =
      (kept.filter fun line => !(spec.classOf line).isSeparator).filterMap
        (Spec.eventBy? spec.classWithoutRules) ∧
    ∀ line, spec.classOf line = .separator → ∃ fault,
      Row.ofLine spec.minFields (trim line) = .error fault ∧
        Spec.eventBy? spec.classWithoutRules line = some (discarding line fault) := by
  intro kept unruled
  have hscan : spec.scan text = ⟨spec.rowsIn kept, spec.discardsIn kept⟩ := spec.scan_eq text
  have hunruled : unruled =
      ⟨spec.rowsIn kept, kept.filterMap (Spec.eventBy? spec.classWithoutRules)⟩ :=
    Spec.readBy_eq spec.row?_classWithoutRules spec.isBlank_classWithoutRules _ _
  have hruled : spec.readBy spec.classOf .seeking (lines text.toList) = spec.scan text :=
    (Spec.readBy_eq (fun _ => rfl) (fun _ => rfl) _ _).trans hscan.symm
  refine ⟨fun minFields line => Row.ofLine_of_joints minFields,
    fun minFields line row => isRule_eq_false_of_ofLine, spec.stepBy_classOf, hruled,
    ?_, ?_, ?_, ?_⟩
  · rw [hunruled, hscan]
  · rw [hunruled]
  · rw [hscan, spec.discardsIn_eq_filter]
  · intro line hrule
    rcases spec.classWithoutRules_cases line with ⟨hno, -⟩ | ⟨-, fault, hfault, hnoise⟩
    · rw [hrule] at hno
      contradiction
    · refine ⟨fault, hfault, ?_⟩
      rw [Spec.eventBy?, hnoise]
      rfl

/-- A line of joints and a wide blank, and a table in which a rule stands between two rows. -/
theorem scan_without_rules_between_rows :
    let spec : Spec := { marker := "T", minFields := 3 }
    let text := "T\n1 | 2 | 3\n+---|---|+\n4 | 5 | 6\n"
    let unruled := spec.readBy spec.classWithoutRules .seeking (lines text.toList)
    (∃ fault, Row.ofLine 0 "+-|\u3000|-+".toList = .error fault) ∧
    isRule "1 | 2 | 3".toList = false ∧
    unruled.value.map Row.key = [1, 4] ∧ (spec.scan text).value.map Row.key = [1, 4] ∧
    unruled.log = [discarding "+---|---|+".toList (.notNumeric 0 "+---")] ∧
    (spec.scan text).log = [] := by
  intro spec text unruled
  obtain ⟨hjoints, hrow, -, -, hvalue, hlog, hruledLog, -⟩ := scan_without_rules spec text
  have hkeys : (spec.scan text).value.map Row.key = [1, 4] := by
    rw [Spec.scan, Spec.scanLines_value]
    decide
  refine ⟨hjoints 0 _ (by simp [isBlank]), hrow 3 _ _ rfl, by rw [hvalue, hkeys], hkeys, ?_, ?_⟩
  · rw [hlog]
    decide
  · rw [hruledLog]
    decide

end ContentionCharts.Table
