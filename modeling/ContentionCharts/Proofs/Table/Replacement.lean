import ContentionCharts.Proofs.Table.Scan

/-!
A row that turns into noise. The other rows stay as they are, with one exception: if it was the
only row before a blank line that ended the table, that line no longer ends it, and the rows below
it come in. The main statement says that this exception is the only one.
-/
namespace ContentionCharts.Table

open ContentionCharts.Text ContentionCharts.Number

namespace Spec

variable {spec : Spec} {phase : Phase}

def phaseAfter (spec : Spec) (phase : Phase) (lines : List (List Char)) : Phase :=
  lines.foldl (fun phase line => (spec.step phase line).1) phase

theorem phaseAfter_cons (spec : Spec) (phase : Phase) (line : List Char)
    (rest : List (List Char)) :
    spec.phaseAfter phase (line :: rest) = spec.phaseAfter (spec.step phase line).1 rest := rfl

theorem collect_append (spec : Spec) (phase : Phase) (before after : List (List Char)) :
    Cursor.collect spec ⟨phase, before ++ after⟩ =
      let first := Cursor.collect spec ⟨phase, before⟩
      let second := Cursor.collect spec ⟨spec.phaseAfter phase before, after⟩
      ⟨first.value ++ second.value, first.log ++ second.log⟩ := by
  induction before generalizing phase with
  | nil =>
    rw [Cursor.collect_nil]
    rfl
  | cons line rest ih =>
    rw [List.cons_append, Cursor.collect_cons, Cursor.collect_cons, ih, phaseAfter_cons]
    simp only [List.append_assoc]

theorem rowsIn_remaining_append (spec : Spec) (phase : Phase) (before after : List (List Char)) :
    spec.rowsIn (spec.remaining phase (before ++ after)) =
      spec.rowsIn (spec.remaining phase before) ++
        spec.rowsIn (spec.remaining (spec.phaseAfter phase before) after) := by
  have happend := congrArg Logged.value (spec.collect_append phase before after)
  rwa [Cursor.collect_eq, Cursor.collect_eq, Cursor.collect_eq] at happend

/-! The phase tells whether there has been a row. -/

theorem phaseAfter_of_filled (spec : Spec) (lines : List (List Char))
    (hphase : phase = .filled ∨ phase = .ended) :
    spec.phaseAfter phase lines = .filled ∨ spec.phaseAfter phase lines = .ended := by
  induction lines generalizing phase with
  | nil => exact hphase
  | cons line rest ih =>
    rcases spec.exists_reads phase line with ⟨later, verdict, hstep, hreads⟩
    rw [phaseAfter_cons, hstep]
    apply ih
    cases hreads <;> simp_all

theorem phaseAfter_of_rows (spec : Spec) (lines : List (List Char))
    (hphase : phase = .seeking ∨ phase = .headed)
    (h : spec.rowsIn (spec.remaining phase lines) ≠ []) :
    spec.phaseAfter phase lines = .filled ∨ spec.phaseAfter phase lines = .ended := by
  induction lines generalizing phase with
  | nil =>
    rw [remaining_nil] at h
    exact absurd rfl h
  | cons line rest ih =>
    rcases spec.exists_reads phase line with ⟨later, verdict, hstep, hreads⟩
    rw [hreads.rowsIn_remaining] at h
    rw [phaseAfter_cons, hstep]
    cases hreads with
    | above => exact ih (.inl rfl) h
    | header => exact ih (.inr rfl) h
    | noise | passed => exact ih hphase h
    | row => exact spec.phaseAfter_of_filled rest (.inl rfl)
    | closing | beyond => simp at hphase

theorem rowsIn_eq_nil_of_headed (spec : Spec) (lines : List (List Char))
    (hphase : phase = .seeking ∨ phase = .headed)
    (h : spec.phaseAfter phase lines = .headed) :
    spec.rowsIn (spec.remaining phase lines) = [] := by
  apply Classical.byContradiction
  intro hrows
  have hafter := spec.phaseAfter_of_rows lines hphase hrows
  simp [h] at hafter

theorem rowsIn_ne_nil_of_filled (spec : Spec) (lines : List (List Char))
    (hphase : phase = .seeking ∨ phase = .headed)
    (h : spec.phaseAfter phase lines = .filled) :
    spec.rowsIn (spec.remaining phase lines) ≠ [] := by
  induction lines generalizing phase with
  | nil =>
    rcases hphase with rfl | rfl <;> simp [phaseAfter] at h
  | cons line rest ih =>
    rcases spec.exists_reads phase line with ⟨later, verdict, hstep, hreads⟩
    rw [hreads.rowsIn_remaining]
    rw [phaseAfter_cons, hstep] at h
    cases hreads with
    | above => exact ih (.inl rfl) h
    | header => exact ih (.inr rfl) h
    | noise | passed => exact ih hphase h
    | row => simp [Verdict.rows]
    | closing | beyond => simp at hphase

/-! Below the same lines, a table without a row so far and one with a row. -/

theorem rowsIn_headed_eq_nil_iff (spec : Spec) (lines : List (List Char)) :
    spec.rowsIn (spec.remaining .headed lines) = [] ↔
      ∀ line ∈ lines, spec.isRow line = false := by
  induction lines with
  | nil => simp [remaining_nil, rowsIn]
  | cons line rest ih =>
    rw [remaining_headed_cons, rowsIn_cons, List.forall_mem_cons]
    unfold isRow at ih ⊢
    cases hrow : (spec.classOf line).row? with
    | none => simpa using ih
    | some row => simp

theorem rowsIn_headed_eq_filled (spec : Spec) (lines : List (List Char))
    (h : spec.rowsIn (spec.remaining .filled lines) ≠ []) :
    spec.rowsIn (spec.remaining .headed lines) = spec.rowsIn (spec.remaining .filled lines) := by
  induction lines with
  | nil => rw [remaining_nil, remaining_nil]
  | cons line rest ih =>
    rw [remaining_filled_cons] at h
    rw [remaining_headed_cons, remaining_filled_cons]
    by_cases hstop : spec.termination = .blankLine ∧ spec.isBlankLine line
    · rw [if_pos hstop] at h
      exact absurd rfl h
    · rw [if_neg hstop] at h
      rw [if_neg hstop, rowsIn_cons, rowsIn_cons]
      rw [rowsIn_cons] at h
      unfold isRow
      cases hrow : (spec.classOf line).row? with
      | none =>
        rw [hrow] at h
        exact congrArg ([] ++ ·) (ih (by simpa using h))
      | some row => rfl

theorem rowsIn_headed_eq_filled_iff (spec : Spec) (lines : List (List Char)) :
    spec.rowsIn (spec.remaining .headed lines) = spec.rowsIn (spec.remaining .filled lines) ↔
      spec.termination = .endOfText ∨ spec.rowsIn (spec.remaining .filled lines) ≠ [] ∨
        ∀ line ∈ lines, spec.isRow line = false := by
  constructor
  · intro h
    by_cases hfilled : spec.rowsIn (spec.remaining .filled lines) = []
    · rw [hfilled] at h
      exact .inr (.inr ((spec.rowsIn_headed_eq_nil_iff lines).mp h))
    · exact .inr (.inl hfilled)
  · rintro (hterm | hfilled | hnone)
    · simp [remaining, body, hterm]
    · exact spec.rowsIn_headed_eq_filled lines hfilled
    · have hheaded := (spec.rowsIn_headed_eq_nil_iff lines).mpr hnone
      by_cases hfilled : spec.rowsIn (spec.remaining .filled lines) = []
      · rw [hheaded, hfilled]
      · exact spec.rowsIn_headed_eq_filled lines hfilled

theorem rowsIn_filled_prefix (spec : Spec) (lines : List (List Char)) :
    spec.rowsIn (spec.remaining .filled lines) <+: spec.rowsIn (spec.remaining .headed lines) := by
  by_cases hfilled : spec.rowsIn (spec.remaining .filled lines) = []
  · rw [hfilled]
    exact List.nil_prefix
  · have hsame := spec.rowsIn_headed_eq_filled lines hfilled
    exact hsame ▸ List.prefix_refl _

/-! The two readings, with the row and without it. -/

theorem of_step_eq_row {line : List Char} {row : Row}
    (h : (spec.step phase line).2 = .row row) :
    (phase = .headed ∨ phase = .filled) ∧ (spec.step phase line).1 = .filled := by
  rcases spec.exists_reads phase line with ⟨later, verdict, hstep, hreads⟩
  rw [hstep] at h ⊢
  cases h
  cases hreads with
  | row inTable => exact ⟨inTable, rfl⟩

theorem step_of_noise {line : List Char} {fault : RowFault}
    (inTable : phase = .headed ∨ phase = .filled) (h : spec.classOf line = .noise fault) :
    spec.step phase line = (phase, .discarded fault) := by
  rcases inTable with rfl | rfl <;> simp only [step, judge, h]

theorem scanLines_split (spec : Spec) (before after : List (List Char)) {line noise : List Char}
    {row : Row} {fault : RowFault}
    (yields : (spec.step (spec.phaseAfter .seeking before) line).2 = .row row)
    (isNoise : spec.classOf noise = .noise fault) :
    (spec.scanLines (before ++ line :: after)).value =
        (spec.scanLines before).value ++ row :: spec.rowsIn (spec.remaining .filled after) ∧
      (spec.scanLines (before ++ noise :: after)).value =
        (spec.scanLines before).value ++
          spec.rowsIn (spec.remaining (spec.phaseAfter .seeking before) after) := by
  rcases of_step_eq_row yields with ⟨inTable, hfilled⟩
  constructor
  · rw [scanLines_value, scanLines_value, rowsIn_remaining_append,
      (spec.step_reads _ line).rowsIn_remaining, yields, hfilled]
    rfl
  · rw [scanLines_value, scanLines_value, rowsIn_remaining_append,
      (spec.step_reads _ noise).rowsIn_remaining, step_of_noise inTable isNoise]
    rfl

end Spec

/-- Noise in the place of a row takes away that row and no other one. It lets others in only where
a blank line ended the table right after this one row and there are rows further below. -/
theorem scan_of_noise_for_row (spec : Spec) (text changed : String)
    (before after : List (List Char)) (line noise : List Char) (row : Row) (fault : RowFault)
    (isText : lines text.toList = before ++ line :: after)
    (isChanged : lines changed.toList = before ++ noise :: after)
    (yields : (spec.step (spec.phaseAfter .seeking before) line).2 = .row row)
    (isNoise : spec.classOf noise = .noise fault) :
    let place := (spec.scanLines before).value.length
    (spec.scan text).value[place]? = some row ∧
    (spec.scan text).value.eraseIdx place <+: (spec.scan changed).value ∧
    ((spec.scan changed).value = (spec.scan text).value.eraseIdx place ↔
      spec.termination = .endOfText ∨ 2 ≤ (spec.scan text).value.length ∨
        ∀ below ∈ after, spec.isRow below = false) := by
  intro place
  rcases spec.scanLines_split before after yields isNoise with ⟨hrow, hnoise⟩
  have herase (rows : List Row) :
      ((spec.scanLines before).value ++ row :: rows).eraseIdx place =
        (spec.scanLines before).value ++ rows := by
    rw [List.eraseIdx_append_of_length_le (Nat.le_refl _), Nat.sub_self]
    rfl
  rw [Spec.scan, Spec.scan, isText, isChanged, hrow, hnoise, herase]
  refine ⟨by simp [place], ?_⟩
  rw [List.prefix_append_right_inj, List.append_cancel_left_eq]
  rcases Spec.of_step_eq_row yields with ⟨hheaded | hfilled, -⟩
  · have hnone : (spec.scanLines before).value = [] := by
      rw [Spec.scanLines_value]
      exact spec.rowsIn_eq_nil_of_headed before (.inl rfl) hheaded
    rw [hheaded, hnone, spec.rowsIn_headed_eq_filled_iff after]
    refine ⟨spec.rowsIn_filled_prefix after, ?_⟩
    rw [← List.length_pos_iff]
    simp [Nat.succ_le_iff]
  · have hsome : 0 < (spec.scanLines before).value.length := by
      rw [Spec.scanLines_value, List.length_pos_iff]
      exact spec.rowsIn_ne_nil_of_filled before (.inl rfl) hfilled
    rw [hfilled]
    refine ⟨List.prefix_refl _, iff_of_true rfl (.inr (.inl ?_))⟩
    simp only [List.length_append, List.length_cons]
    omega

/-- The first of two rows gives way to noise: the blank line below the second one still ends the
table. -/
theorem scan_of_noise_for_first_row :
    (Spec.scan { marker := "T", minFields := 3 }
        "T\nx | 2 | 3\n4 | 5 | 6\n\n7 | 8 | 9\n").value =
      (Spec.scan { marker := "T", minFields := 3 }
          "T\n1 | 2 | 3\n4 | 5 | 6\n\n7 | 8 | 9\n").value.eraseIdx
        (Spec.scanLines { marker := "T", minFields := 3 } ["T".toList]).value.length := by
  have h := scan_of_noise_for_row { marker := "T", minFields := 3 }
    "T\n1 | 2 | 3\n4 | 5 | 6\n\n7 | 8 | 9\n" "T\nx | 2 | 3\n4 | 5 | 6\n\n7 | 8 | 9\n"
    ["T".toList] ["4 | 5 | 6".toList, [], "7 | 8 | 9".toList] "1 | 2 | 3".toList
    "x | 2 | 3".toList ⟨1, ofDecimal 2 0, ofDecimal 3 0⟩ (.notNumeric 0 "x")
    (by decide) (by decide) (by rfl) (by rfl)
  refine h.2.2.mpr (.inr (.inl ?_))
  rw [Spec.scan, Spec.scanLines_value]
  decide

/-- Noise in the place of the only row before a blank line lets in a row from below that line. -/
theorem scan_of_noise_for_only_row :
    ¬ ∀ (spec : Spec) (text changed : String) (before after : List (List Char))
        (line noise : List Char) (row : Row) (fault : RowFault),
      lines text.toList = before ++ line :: after →
      lines changed.toList = before ++ noise :: after →
      (spec.step (spec.phaseAfter .seeking before) line).2 = .row row →
      spec.classOf noise = .noise fault →
      (spec.scan changed).value =
        (spec.scan text).value.eraseIdx (spec.scanLines before).value.length := by
  intro h
  have hequal := h { marker := "T", minFields := 3 }
    "T\n1 | 2 | 3\n\n4 | 5 | 6\n" "T\nx | 2 | 3\n\n4 | 5 | 6\n"
    ["T".toList] [[], "4 | 5 | 6".toList] "1 | 2 | 3".toList "x | 2 | 3".toList
    ⟨1, ofDecimal 2 0, ofDecimal 3 0⟩ (.notNumeric 0 "x")
    (by decide) (by decide) (by rfl) (by rfl)
  have hlength := congrArg List.length hequal
  rw [List.length_eraseIdx, Spec.scan, Spec.scan, Spec.scanLines_value, Spec.scanLines_value,
    Spec.scanLines_value] at hlength
  revert hlength
  decide

end ContentionCharts.Table
