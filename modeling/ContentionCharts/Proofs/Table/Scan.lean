import ContentionCharts.Proofs.Table.Body

/-!
What a cursor brings to light. Reading to the end gives the rows and the events of the lines that
belong to the table; asking any number of times gives as many of the rows, then nothing, and only
the events of the lines that were read on the way.
-/
namespace ContentionCharts.Table

open ContentionCharts.Text

variable {spec : Spec} {line : List Char} {phase later : Phase}

namespace Cursor

theorem next_nil (spec : Spec) (phase : Phase) :
    next spec ⟨phase, []⟩ = ⟨(none, ⟨phase, []⟩), []⟩ := rfl

theorem next_of_skipped (h : spec.step phase line = (later, .skipped)) (rest : List (List Char)) :
    next spec ⟨phase, line :: rest⟩ = next spec ⟨later, rest⟩ := by
  simp only [next, Spec.advance, h]

theorem next_of_discarded {fault : RowFault}
    (h : spec.step phase line = (later, .discarded fault)) (rest : List (List Char)) :
    next spec ⟨phase, line :: rest⟩ =
      ⟨(next spec ⟨later, rest⟩).value,
        discarding line fault :: (next spec ⟨later, rest⟩).log⟩ := by
  simp only [next, Spec.advance, h]
  rw [Spec.advance_eq_append_log]
  rfl

theorem next_of_row {row : Row} (h : spec.step phase line = (later, .row row))
    (rest : List (List Char)) :
    next spec ⟨phase, line :: rest⟩ = ⟨(some row, ⟨later, rest⟩), []⟩ := by
  simp only [next, Spec.advance, h, List.reverse_nil]

theorem next_of_stopped (h : spec.step phase line = (later, .stopped))
    (rest : List (List Char)) :
    next spec ⟨phase, line :: rest⟩ = ⟨(none, ⟨later, rest⟩), []⟩ := by
  simp only [next, Spec.advance, h, List.reverse_nil]

theorem collect_of_none {cursor after : Cursor}
    (h : (cursor.next spec).value = (none, after)) :
    cursor.collect spec = ⟨[], (cursor.next spec).log⟩ := by
  rw [collect]
  split
  next => rfl
  next row other hsome =>
    rw [h] at hsome
    cases hsome

theorem collect_of_some {cursor after : Cursor} {row : Row}
    (h : (cursor.next spec).value = (some row, after)) :
    cursor.collect spec =
      ⟨row :: (after.collect spec).value,
        (cursor.next spec).log ++ (after.collect spec).log⟩ := by
  rw [collect]
  split
  next other hnone =>
    rw [h] at hnone
    cases hnone
  next other found hsome =>
    rw [h] at hsome
    cases hsome
    rfl

theorem collect_of_prefixed {cursor other : Cursor} (events : List Event)
    (h : cursor.next spec = ⟨(other.next spec).value, events ++ (other.next spec).log⟩) :
    cursor.collect spec =
      ⟨(other.collect spec).value, events ++ (other.collect spec).log⟩ := by
  rcases hvalue : (other.next spec).value with ⟨found, after⟩
  cases found with
  | none => rw [collect_of_none (by rw [h, hvalue]), collect_of_none hvalue, h]
  | some row =>
    rw [collect_of_some (by rw [h, hvalue]), collect_of_some hvalue, h, List.append_assoc]

theorem collect_nil (spec : Spec) (phase : Phase) : collect spec ⟨phase, []⟩ = ⟨[], []⟩ := by
  rw [collect_of_none (by rw [next_nil]), next_nil]

theorem collect_ended (spec : Spec) (rest : List (List Char)) :
    collect spec ⟨.ended, rest⟩ = ⟨[], []⟩ := by
  cases rest with
  | nil => exact collect_nil spec .ended
  | cons line rest =>
    have hnext : next spec ⟨.ended, line :: rest⟩ = ⟨(none, ⟨.ended, rest⟩), []⟩ :=
      next_of_stopped rfl rest
    rw [collect_of_none (by rw [hnext]), hnext]

theorem collect_cons (spec : Spec) (phase : Phase) (line : List Char) (rest : List (List Char)) :
    collect spec ⟨phase, line :: rest⟩ =
      let later := collect spec ⟨(spec.step phase line).1, rest⟩
      ⟨(spec.step phase line).2.rows ++ later.value,
        (spec.step phase line).2.events line ++ later.log⟩ := by
  rcases spec.exists_reads phase line with ⟨after, verdict, hstep, hreads⟩
  rw [hstep]
  cases verdict with
  | skipped => exact collect_of_prefixed [] (next_of_skipped hstep rest)
  | discarded fault =>
    exact collect_of_prefixed [discarding line fault] (next_of_discarded hstep rest)
  | row row =>
    have hnext := next_of_row hstep rest
    rw [collect_of_some (by rw [hnext]), hnext]
    rfl
  | stopped =>
    have hnext := next_of_stopped hstep rest
    have hended : after = .ended := by
      cases hreads <;> rfl
    rw [collect_of_none (by rw [hnext]), hnext, hended, collect_ended]
    rfl

/-- From any phase on, a reading gives the rows and the events of what is left of the table. -/
theorem collect_eq (spec : Spec) (phase : Phase) (lines : List (List Char)) :
    collect spec ⟨phase, lines⟩ =
      ⟨spec.rowsIn (spec.remaining phase lines), spec.discardsIn (spec.remaining phase lines)⟩ := by
  induction lines generalizing phase with
  | nil =>
    rw [Spec.remaining_nil, collect_nil]
    rfl
  | cons line rest ih =>
    have hreads := spec.step_reads phase line
    rw [collect_cons, ih, hreads.rowsIn_remaining, hreads.discardsIn_remaining]

/-! Asking a number of times. -/

theorem pull_succ (spec : Spec) (n : Nat) (cursor : Cursor) :
    cursor.pull spec (n + 1) =
      ⟨(cursor.next spec).value.1 :: ((cursor.next spec).value.2.pull spec n).value,
        (cursor.next spec).log ++ ((cursor.next spec).value.2.pull spec n).log⟩ := rfl

theorem pull_of_prefixed {cursor other : Cursor} (n : Nat) (events : List Event)
    (h : cursor.next spec = ⟨(other.next spec).value, events ++ (other.next spec).log⟩) :
    cursor.pull spec (n + 1) =
      ⟨(other.pull spec (n + 1)).value, events ++ (other.pull spec (n + 1)).log⟩ := by
  rw [pull_succ, pull_succ, h, List.append_assoc]

end Cursor

/-- The first answers to that many questions: the rows, as far as they go, then nothing. -/
def answers (n : Nat) (rows : List Row) : List (Option Row) :=
  (rows.map some).take n ++ List.replicate (n - rows.length) none

theorem answers_succ_nil (n : Nat) : answers (n + 1) [] = none :: answers n [] := by
  simp [answers, List.replicate_succ]

theorem answers_succ_cons (n : Nat) (row : Row) (rows : List Row) :
    answers (n + 1) (row :: rows) = some row :: answers n rows := by
  simp [answers]

namespace Cursor

theorem pull_ended (spec : Spec) (n : Nat) (rest : List (List Char)) :
    pull spec n ⟨.ended, rest⟩ = ⟨answers n [], []⟩ := by
  induction n generalizing rest with
  | zero => rfl
  | succ n ih =>
    cases rest with
    | nil => rw [pull_succ, next_nil, ih, answers_succ_nil, List.append_nil]
    | cons line rest =>
      have hnext : next spec ⟨.ended, line :: rest⟩ = ⟨(none, ⟨.ended, rest⟩), []⟩ :=
        next_of_stopped rfl rest
      rw [pull_succ, hnext, ih, answers_succ_nil, List.append_nil]

theorem pull_nil (spec : Spec) (n : Nat) (phase : Phase) :
    pull spec n ⟨phase, []⟩ = ⟨answers n [], []⟩ := by
  induction n with
  | zero => rfl
  | succ n ih => rw [pull_succ, next_nil, ih, answers_succ_nil, List.append_nil]

/-- From any phase on, the answers are the rows of what is left of the table, and the events are
those of its lines up to the last row that was asked for. -/
theorem pull_eq (spec : Spec) (n : Nat) (phase : Phase) (lines : List (List Char)) :
    pull spec n ⟨phase, lines⟩ =
      ⟨answers n (spec.rowsIn (spec.remaining phase lines)),
        spec.discardsIn (spec.through n (spec.remaining phase lines))⟩ := by
  induction lines generalizing n phase with
  | nil =>
    rw [pull_nil, Spec.remaining_nil]
    cases n <;> rfl
  | cons line rest ih =>
    cases n with
    | zero => simp [pull, answers, Spec.through, Spec.discardsIn]
    | succ n =>
      rcases spec.exists_reads phase line with ⟨later, verdict, hstep, hreads⟩
      rw [hreads.rowsIn_remaining]
      have hline := hreads
      cases hreads with
      | above | header =>
        rw [pull_of_prefixed n [] (next_of_skipped hstep rest), ih,
          hline.remaining_outside (.inl rfl)]
        rfl
      | row inTable isData =>
        have hrow := Spec.isRow_of_data isData
        rw [pull_succ, next_of_row hstep rest, ih, hline.remaining_inTable inTable (by simp)]
        simp [Verdict.rows, answers_succ_cons, Spec.through, hrow, Spec.discardsIn, isData,
          LineClass.fault?]
      | noise inTable isNoise =>
        have hrow : spec.isRow line = false := Spec.isRow_of_row?_none (by rw [isNoise]; rfl)
        rw [pull_of_prefixed n [_] (next_of_discarded hstep rest), ih,
          hline.remaining_inTable inTable (Spec.ne_ended inTable)]
        simp [Verdict.rows, Spec.through, hrow, Spec.discardsIn, isNoise, LineClass.fault?]
      | passed inTable noRow noFault =>
        rw [pull_of_prefixed n [] (next_of_skipped hstep rest), ih,
          hline.remaining_inTable inTable (Spec.ne_ended inTable)]
        simp [Verdict.rows, Spec.through, Spec.isRow_of_row?_none noRow, Spec.discardsIn, noFault]
      | closing | beyond =>
        rw [pull_succ, next_of_stopped hstep rest, pull_ended, hline.remaining_outside (.inr rfl)]
        simp [Verdict.rows, Spec.remaining, Spec.rowsIn, Spec.through, Spec.discardsIn,
          answers_succ_nil]

end Cursor

theorem Spec.scanLines_value (spec : Spec) (lines : List (List Char)) :
    (spec.scanLines lines).value = spec.rowsIn (spec.remaining .seeking lines) := by
  rw [Spec.scanLines, Cursor.atStart, Cursor.collect_eq]

theorem Spec.scan_eq (spec : Spec) (text : String) :
    spec.scan text =
      ⟨spec.rowsIn (spec.body (spec.belowHeader (lines text.toList))),
        spec.discardsIn (spec.body (spec.belowHeader (lines text.toList)))⟩ :=
  Cursor.collect_eq spec .seeking (lines text.toList)

end ContentionCharts.Table
