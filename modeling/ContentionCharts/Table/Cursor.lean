import ContentionCharts.Log
import ContentionCharts.Table.Line
import ContentionCharts.Text.Line

/-!
Reading a table row by row. A cursor holds the lines that are left and how far the table has come;
asking for the next row consumes lines up to that row, or up to the line that ends the table. What
one line does is a step of the phase, and a cursor only repeats steps.
-/
namespace ContentionCharts.Table

open ContentionCharts.Text

/-- Before the header; below it without a row so far; after a row; after the end of the table. -/
inductive Phase where
  | seeking | headed | filled | ended
  deriving DecidableEq, Repr

inductive Verdict where
  | skipped
  | row (row : Row)
  | discarded (fault : RowFault)
  | stopped

def Spec.judge (spec : Spec) (phase : Phase) (line : List Char) : Phase × Verdict :=
  match spec.classOf line with
  | .data row => (.filled, .row row)
  | .noise fault => (phase, .discarded fault)
  | .blank =>
    if phase = .filled ∧ spec.termination = .blankLine then (.ended, .stopped)
    else (phase, .skipped)
  | .header | .separator => (phase, .skipped)

/-- The marker is looked for in the whole line before the table, blanks at its ends included. -/
def Spec.step (spec : Spec) : Phase → List Char → Phase × Verdict
  | .seeking, line =>
    if occursIn spec.marker.toList line then (.headed, .skipped) else (.seeking, .skipped)
  | .ended, _ => (.ended, .stopped)
  | phase, line => spec.judge phase line

def discarding (line : List Char) (fault : RowFault) : Event where
  level := .trace
  origin := .table
  message := "Discarding row " ++ quoted line ++ ": " ++ fault.message

structure Cursor where
  phase : Phase
  rest : List (List Char)
  deriving DecidableEq

def Cursor.atStart (lines : List (List Char)) : Cursor :=
  ⟨.seeking, lines⟩

/-- The next row if there is one, with the cursor after it. The events so far are handed on latest
first. -/
def Spec.advance (spec : Spec) (phase : Phase) (events : List Event) :
    List (List Char) → Logged (Option Row × Cursor)
  | [] => ⟨(none, ⟨phase, []⟩), events.reverse⟩
  | line :: rest =>
    match spec.step phase line with
    | (phase, .skipped) => spec.advance phase events rest
    | (phase, .discarded fault) => spec.advance phase (discarding line fault :: events) rest
    | (phase, .row row) => ⟨(some row, ⟨phase, rest⟩), events.reverse⟩
    | (phase, .stopped) => ⟨(none, ⟨phase, rest⟩), events.reverse⟩

theorem Spec.advance_eq_append_log (spec : Spec) (phase : Phase) (events : List Event)
    (lines : List (List Char)) :
    spec.advance phase events lines =
      ⟨(spec.advance phase [] lines).value,
        events.reverse ++ (spec.advance phase [] lines).log⟩ := by
  induction lines generalizing phase events with
  | nil => simp [Spec.advance]
  | cons line rest ih =>
    simp only [Spec.advance]
    split
    · exact ih _ events
    · rename_i later fault _
      rw [ih later (discarding line fault :: events), ih later [discarding line fault]]
      simp
    · simp
    · simp

theorem Spec.rest_shorter_of_advance (spec : Spec) {phase : Phase} {events : List Event}
    {lines : List (List Char)} {row : Row} {after : Cursor}
    (h : (spec.advance phase events lines).value = (some row, after)) :
    after.rest.length < lines.length := by
  induction lines generalizing phase events with
  | nil => simp [Spec.advance] at h
  | cons line rest ih =>
    rw [Spec.advance] at h
    split at h
    · exact Nat.lt_succ_of_lt (ih h)
    · exact Nat.lt_succ_of_lt (ih h)
    · obtain ⟨-, rfl⟩ := Prod.mk.inj h
      exact Nat.lt_succ_self _
    · simp at h

namespace Cursor

def next (spec : Spec) (cursor : Cursor) : Logged (Option Row × Cursor) :=
  spec.advance cursor.phase [] cursor.rest

def pull (spec : Spec) : Nat → Cursor → Logged (List (Option Row))
  | 0, _ => ⟨[], []⟩
  | n + 1, cursor =>
    let first := cursor.next spec
    let later := first.value.2.pull spec n
    ⟨first.value.1 :: later.value, first.log ++ later.log⟩

def collect (spec : Spec) (cursor : Cursor) : Logged (List Row) :=
  match _found : (cursor.next spec).value with
  | (none, _) => ⟨[], (cursor.next spec).log⟩
  | (some row, after) =>
    let later := after.collect spec
    ⟨row :: later.value, (cursor.next spec).log ++ later.log⟩
termination_by cursor.rest.length
decreasing_by exact spec.rest_shorter_of_advance _found

end Cursor

def Spec.scanLines (spec : Spec) (lines : List (List Char)) : Logged (List Row) :=
  (Cursor.atStart lines).collect spec

def Spec.scan (spec : Spec) (text : String) : Logged (List Row) :=
  spec.scanLines (lines text.toList)

end ContentionCharts.Table
