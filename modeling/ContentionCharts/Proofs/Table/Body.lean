import ContentionCharts.Table.Cursor

/-!
The lines of a table as a part of the text, said without a cursor: the lines below the header, up
to the blank line that ends the table. The rows and the events are read off these lines one by one.
What a step of a cursor does to them is stated once, in `Spec.Reads`; whatever holds of a whole
reading follows from it by induction on the lines.
-/
namespace ContentionCharts.Table

open ContentionCharts.Text

namespace LineClass

def row? : LineClass → Option Row
  | data row => some row
  | _ => none

def fault? : LineClass → Option RowFault
  | noise fault => some fault
  | _ => none

def isBlank : LineClass → Bool
  | blank => true
  | _ => false

end LineClass

def Verdict.rows : Verdict → List Row
  | .row found => [found]
  | _ => []

def Verdict.events (line : List Char) : Verdict → List Event
  | .discarded fault => [discarding line fault]
  | _ => []

namespace Spec

def isRow (spec : Spec) (line : List Char) : Bool :=
  (spec.classOf line).row?.isSome

def isBlankLine (spec : Spec) (line : List Char) : Bool :=
  (spec.classOf line).isBlank

def belowHeader (spec : Spec) (lines : List (List Char)) : List (List Char) :=
  (lines.dropWhile fun line => !occursIn spec.marker.toList line).tail

/-- All lines, or those before the first blank one that has a row above it. -/
def body (spec : Spec) (lines : List (List Char)) : List (List Char) :=
  match spec.termination with
  | .endOfText => lines
  | .blankLine =>
    (lines.takeWhile fun line => !spec.isRow line) ++
      (lines.dropWhile fun line => !spec.isRow line).takeWhile fun line => !spec.isBlankLine line

def rowsIn (spec : Spec) (lines : List (List Char)) : List Row :=
  lines.filterMap fun line => (spec.classOf line).row?

def discardsIn (spec : Spec) (lines : List (List Char)) : List Event :=
  lines.filterMap fun line => (spec.classOf line).fault?.map (discarding line)

/-- The lines up to and with the one that holds the row of the given number, counted from one; all
lines if there are fewer rows. -/
def through (spec : Spec) : Nat → List (List Char) → List (List Char)
  | 0, _ => []
  | _ + 1, [] => []
  | n + 1, line :: rest =>
    line :: if spec.isRow line then spec.through n rest else spec.through (n + 1) rest

def remaining (spec : Spec) : Phase → List (List Char) → List (List Char)
  | .seeking, lines => spec.body (spec.belowHeader lines)
  | .headed, lines => spec.body lines
  | .filled, lines =>
    match spec.termination with
    | .endOfText => lines
    | .blankLine => lines.takeWhile fun line => !spec.isBlankLine line
  | .ended, _ => []

/-- What one line does, by the phase before it, the phase after it and the verdict. -/
inductive Reads (spec : Spec) (line : List Char) : Phase → Phase → Verdict → Prop where
  | above (unmarked : occursIn spec.marker.toList line = false) :
      Reads spec line .seeking .seeking .skipped
  | header (marked : occursIn spec.marker.toList line = true) :
      Reads spec line .seeking .headed .skipped
  | row {phase : Phase} {row : Row} (inTable : phase = .headed ∨ phase = .filled)
      (isData : spec.classOf line = .data row) : Reads spec line phase .filled (.row row)
  | noise {phase : Phase} {fault : RowFault} (inTable : phase = .headed ∨ phase = .filled)
      (isNoise : spec.classOf line = .noise fault) :
      Reads spec line phase phase (.discarded fault)
  | passed {phase : Phase} (inTable : phase = .headed ∨ phase = .filled)
      (noRow : (spec.classOf line).row? = none) (noFault : (spec.classOf line).fault? = none)
      (goesOn : phase = .filled → spec.termination = .blankLine →
        (spec.classOf line).isBlank = false) :
      Reads spec line phase phase .skipped
  | closing (isBlank : spec.classOf line = .blank) (stops : spec.termination = .blankLine) :
      Reads spec line .filled .ended .stopped
  | beyond : Reads spec line .ended .ended .stopped

theorem judge_reads (spec : Spec) {phase : Phase} (line : List Char)
    (inTable : phase = .headed ∨ phase = .filled) :
    spec.Reads line phase (spec.judge phase line).1 (spec.judge phase line).2 := by
  unfold judge
  split
  next row hclass => exact .row inTable hclass
  next fault hclass => exact .noise inTable hclass
  next hclass =>
    by_cases hstop : phase = .filled ∧ spec.termination = .blankLine
    · rcases hstop with ⟨rfl, hterm⟩
      simpa only [hterm, and_self, ↓reduceIte] using Reads.closing hclass hterm
    · rw [if_neg hstop]
      refine .passed inTable ?_ ?_ fun hphase hterm => absurd ⟨hphase, hterm⟩ hstop
      · rw [hclass]
        rfl
      · rw [hclass]
        rfl
  all_goals
    next hclass =>
      refine .passed inTable ?_ ?_ fun _ _ => ?_ <;> rw [hclass] <;> rfl

theorem step_reads (spec : Spec) (phase : Phase) (line : List Char) :
    spec.Reads line phase (spec.step phase line).1 (spec.step phase line).2 := by
  cases phase with
  | seeking =>
    cases hmarked : occursIn spec.marker.toList line with
    | false =>
      simpa only [step, hmarked, Bool.false_eq_true, ↓reduceIte] using Reads.above hmarked
    | true => simpa only [step, hmarked, ↓reduceIte] using Reads.header hmarked
  | headed => exact spec.judge_reads line (.inl rfl)
  | filled => exact spec.judge_reads line (.inr rfl)
  | ended => exact .beyond

theorem exists_reads (spec : Spec) (phase : Phase) (line : List Char) :
    ∃ later verdict, spec.step phase line = (later, verdict) ∧
      spec.Reads line phase later verdict :=
  ⟨_, _, rfl, spec.step_reads phase line⟩

/-! What is left of the table, line by line. -/

variable {spec : Spec} {line : List Char} {phase later : Phase} {verdict : Verdict}

theorem remaining_nil (spec : Spec) (phase : Phase) : spec.remaining phase [] = [] := by
  cases phase <;> cases hterm : spec.termination <;>
    simp [remaining, body, belowHeader, hterm]

theorem remaining_seeking_cons (spec : Spec) (line : List Char) (rest : List (List Char)) :
    spec.remaining .seeking (line :: rest) =
      spec.remaining (if occursIn spec.marker.toList line then .headed else .seeking) rest := by
  cases hmarked : occursIn spec.marker.toList line <;>
    simp [remaining, belowHeader, hmarked]

theorem isBlank_eq_false_of_isRow (h : spec.isRow line) : spec.isBlankLine line = false := by
  unfold isRow at h
  unfold isBlankLine
  cases hclass : spec.classOf line <;> simp_all [LineClass.row?, LineClass.isBlank]

theorem remaining_headed_cons (spec : Spec) (line : List Char) (rest : List (List Char)) :
    spec.remaining .headed (line :: rest) =
      line :: spec.remaining (if spec.isRow line then .filled else .headed) rest := by
  cases hrow : spec.isRow line with
  | false => cases hterm : spec.termination <;> simp [remaining, body, hterm, hrow]
  | true =>
    have hblank := isBlank_eq_false_of_isRow hrow
    cases hterm : spec.termination <;> simp [remaining, body, hterm, hrow, hblank]

theorem remaining_filled_cons (spec : Spec) (line : List Char) (rest : List (List Char)) :
    spec.remaining .filled (line :: rest) =
      if spec.termination = .blankLine ∧ spec.isBlankLine line then []
      else line :: spec.remaining .filled rest := by
  cases hterm : spec.termination <;> cases hblank : spec.isBlankLine line <;>
    simp [remaining, hterm, hblank]

theorem remaining_seeking_of_unmarked (spec : Spec) {above : List (List Char)}
    (unmarked : ∀ line ∈ above, occursIn spec.marker.toList line = false)
    (lines : List (List Char)) :
    spec.remaining .seeking (above ++ lines) = spec.remaining .seeking lines := by
  induction above with
  | nil => rfl
  | cons line above ih =>
    rw [List.forall_mem_cons] at unmarked
    rw [List.cons_append, remaining_seeking_cons, unmarked.1]
    exact ih unmarked.2

theorem remaining_seeking_append (spec : Spec) {before : List (List Char)} {header : List Char}
    (unmarked : ∀ line ∈ before, occursIn spec.marker.toList line = false)
    (marked : occursIn spec.marker.toList header) (rest : List (List Char)) :
    spec.remaining .seeking (before ++ header :: rest) = spec.remaining .headed rest := by
  rw [remaining_seeking_of_unmarked spec unmarked, remaining_seeking_cons, if_pos marked]

theorem remaining_headed_append (spec : Spec) {lines : List (List Char)}
    (rowless : ∀ line ∈ lines, spec.isRow line = false) (rest : List (List Char)) :
    spec.remaining .headed (lines ++ rest) = lines ++ spec.remaining .headed rest := by
  induction lines with
  | nil => rfl
  | cons line lines ih =>
    rw [List.forall_mem_cons] at rowless
    rw [List.cons_append, remaining_headed_cons, rowless.1, List.cons_append]
    exact congrArg (line :: ·) (ih rowless.2)

theorem remaining_filled_append (spec : Spec) {lines : List (List Char)}
    (solid : ∀ line ∈ lines, spec.isBlankLine line = false) (rest : List (List Char)) :
    spec.remaining .filled (lines ++ rest) = lines ++ spec.remaining .filled rest := by
  induction lines with
  | nil => rfl
  | cons line lines ih =>
    rw [List.forall_mem_cons] at solid
    rw [List.cons_append, remaining_filled_cons, solid.1, ih solid.2]
    simp

theorem remaining_headed_append_of_row (spec : Spec) {lines : List (List Char)}
    (solid : ∀ line ∈ lines, spec.isBlankLine line = false)
    (hrow : ∃ line ∈ lines, spec.isRow line = true) (rest : List (List Char)) :
    spec.remaining .headed (lines ++ rest) = lines ++ spec.remaining .filled rest := by
  induction lines with
  | nil => simp at hrow
  | cons line lines ih =>
    rw [List.forall_mem_cons] at solid
    rw [List.cons_append, remaining_headed_cons, List.cons_append]
    cases hline : spec.isRow line with
    | true => exact congrArg (line :: ·) (spec.remaining_filled_append solid.2 rest)
    | false =>
      refine congrArg (line :: ·) (ih solid.2 ?_)
      simpa [hline] using hrow

theorem remaining_inTable_cons (rest : List (List Char))
    (inTable : phase = .headed ∨ phase = .filled)
    (goesOn : phase = .filled → spec.termination = .blankLine → spec.isBlankLine line = false) :
    spec.remaining phase (line :: rest) =
      line :: spec.remaining (if spec.isRow line then .filled else phase) rest := by
  rcases inTable with rfl | rfl
  · exact spec.remaining_headed_cons line rest
  · rw [remaining_filled_cons, ite_self, if_neg]
    rintro ⟨hterm, hblank⟩
    rw [goesOn rfl hterm] at hblank
    contradiction

theorem rowsIn_cons (spec : Spec) (line : List Char) (lines : List (List Char)) :
    spec.rowsIn (line :: lines) = (spec.classOf line).row?.toList ++ spec.rowsIn lines := by
  unfold rowsIn
  cases hrow : (spec.classOf line).row? <;> simp [hrow]

theorem through_of_length_lt (spec : Spec) {n : Nat} {lines : List (List Char)}
    (h : (spec.rowsIn lines).length < n) : spec.through n lines = lines := by
  induction lines generalizing n with
  | nil => cases n <;> rfl
  | cons line rest ih =>
    cases n with
    | zero => exact absurd h (Nat.not_lt_zero _)
    | succ n =>
      rw [rowsIn_cons] at h
      unfold through isRow
      cases hrow : (spec.classOf line).row? with
      | none =>
        have hrest := ih (n := n + 1) (by simpa [hrow] using h)
        simpa using hrest
      | some row =>
        have hrest := ih (n := n) (by simpa [hrow] using h)
        simpa using hrest

theorem ne_ended (inTable : phase = .headed ∨ phase = .filled) : phase ≠ .ended := by
  rcases inTable with rfl | rfl <;> simp

theorem isRow_of_data {row : Row} (h : spec.classOf line = .data row) : spec.isRow line = true := by
  simp [isRow, h, LineClass.row?]

theorem isRow_of_row?_none (h : (spec.classOf line).row? = none) : spec.isRow line = false := by
  simp [isRow, h]

namespace Reads

/-- A line of the table stays in front of what is left after it, unless it ends the table. -/
theorem remaining_inTable (h : spec.Reads line phase later verdict)
    (inTable : phase = .headed ∨ phase = .filled) (goesOn : later ≠ .ended)
    (rest : List (List Char)) :
    spec.remaining phase (line :: rest) = line :: spec.remaining later rest := by
  cases h with
  | above | header | beyond => simp at inTable
  | closing => exact absurd rfl goesOn
  | row inTable isData =>
    have hrow := isRow_of_data isData
    rw [remaining_inTable_cons rest inTable fun _ _ => isBlank_eq_false_of_isRow hrow, hrow]
    rfl
  | noise inTable isNoise =>
    have hrow : spec.isRow line = false := isRow_of_row?_none (by rw [isNoise]; rfl)
    rw [remaining_inTable_cons rest inTable, hrow]
    · rfl
    · intro _ _
      simp [isBlankLine, isNoise, LineClass.isBlank]
  | passed inTable noRow noFault isOpen =>
    rw [remaining_inTable_cons rest inTable isOpen, isRow_of_row?_none noRow]
    rfl

theorem remaining_outside (h : spec.Reads line phase later verdict)
    (outside : phase = .seeking ∨ later = .ended) (rest : List (List Char)) :
    spec.remaining phase (line :: rest) = spec.remaining later rest := by
  cases h with
  | above unmarked => simp [remaining_seeking_cons, unmarked]
  | header marked => simp [remaining_seeking_cons, marked]
  | row inTable | noise inTable | passed inTable =>
    rcases inTable with rfl | rfl <;> simp at outside
  | closing isBlank stops =>
    rw [remaining_filled_cons, if_pos ⟨stops, by simp [isBlankLine, isBlank, LineClass.isBlank]⟩]
    rfl
  | beyond => rfl

theorem remaining_cons (h : spec.Reads line phase later verdict) (rest : List (List Char)) :
    ∃ kept, spec.remaining phase (line :: rest) = kept ++ spec.remaining later rest ∧
      spec.rowsIn kept = verdict.rows ∧ spec.discardsIn kept = verdict.events line := by
  have hline := h
  cases h with
  | above | header => exact ⟨[], hline.remaining_outside (.inl rfl) rest, rfl, rfl⟩
  | closing | beyond => exact ⟨[], hline.remaining_outside (.inr rfl) rest, rfl, rfl⟩
  | row inTable isData =>
    refine ⟨[line], hline.remaining_inTable inTable (by simp) rest, ?_, ?_⟩
    · simp [rowsIn, isData, LineClass.row?, Verdict.rows]
    · simp [discardsIn, isData, LineClass.fault?, Verdict.events]
  | noise inTable isNoise =>
    refine ⟨[line], hline.remaining_inTable inTable (ne_ended inTable) rest, ?_, ?_⟩
    · simp [rowsIn, isNoise, LineClass.row?, Verdict.rows]
    · simp [discardsIn, isNoise, LineClass.fault?, Verdict.events]
  | passed inTable noRow noFault =>
    refine ⟨[line], hline.remaining_inTable inTable (ne_ended inTable) rest, ?_, ?_⟩
    · simp [rowsIn, noRow, Verdict.rows]
    · simp [discardsIn, noFault, Verdict.events]

theorem rowsIn_remaining (h : spec.Reads line phase later verdict) (rest : List (List Char)) :
    spec.rowsIn (spec.remaining phase (line :: rest)) =
      verdict.rows ++ spec.rowsIn (spec.remaining later rest) := by
  rcases h.remaining_cons rest with ⟨kept, hkept, hrows, -⟩
  rw [hkept, ← hrows]
  exact List.filterMap_append

theorem discardsIn_remaining (h : spec.Reads line phase later verdict)
    (rest : List (List Char)) :
    spec.discardsIn (spec.remaining phase (line :: rest)) =
      verdict.events line ++ spec.discardsIn (spec.remaining later rest) := by
  rcases h.remaining_cons rest with ⟨kept, hkept, -, hevents⟩
  rw [hkept, ← hevents]
  exact List.filterMap_append

end Reads

end Spec

end ContentionCharts.Table
