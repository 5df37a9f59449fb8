import ContentionCharts.Proofs.Table.Fields
import ContentionCharts.Proofs.Table.Replacement
import ContentionCharts.Report.Wording

/-!
Headers that come again. The header is looked for in a whole line above the table and in a trimmed
one inside it; for a marker with solid ends this is one test. A line with the marker inside or
below the table is then never a row and does nothing, so it may come any number of times.
-/
namespace ContentionCharts.Table

open ContentionCharts.Text

theorem occursIn_trim {phrase : List Char} (solid : solidEnds phrase) (line : List Char) :
    occursIn phrase (trim line) = occursIn phrase line := by
  rw [Bool.eq_iff_iff, occursIn_iff_isInfix, occursIn_iff_isInfix]
  exact isInfix_trim_iff solid line

namespace Spec

variable {spec : Spec} {line : List Char} {phase : Phase}

def hasMarker (spec : Spec) (line : List Char) : Bool :=
  occursIn spec.marker.toList line

theorem classOf_of_hasMarker (solid : solidEnds spec.marker.toList) (marked : spec.hasMarker line) :
    spec.classOf line = .header := by
  have htrim : occursIn spec.marker.toList (trim line) = true := by
    rw [occursIn_trim solid]
    exact marked
  have hsome : (trim line).isEmpty = false := by
    rw [List.isEmpty_eq_false_iff]
    intro hnil
    rw [hnil, occursIn_iff_isInfix, List.infix_nil] at htrim
    rw [htrim] at solid
    contradiction
  unfold classOf isHeader
  simp only [hsome, htrim, Bool.true_or, Bool.false_eq_true, ↓reduceIte]

/-- Below the first header another one changes nothing and brings nothing. -/
theorem step_of_hasMarker (solid : solidEnds spec.marker.toList) (marked : spec.hasMarker line)
    (below : phase ≠ .seeking) :
    (spec.step phase line).1 = phase ∧ (spec.step phase line).2.rows = [] ∧
      (spec.step phase line).2.events line = [] := by
  have hclass := classOf_of_hasMarker solid marked
  cases phase with
  | seeking => contradiction
  | headed | filled => simp [step, judge, hclass, Verdict.rows, Verdict.events]
  | ended => exact ⟨rfl, rfl, rfl⟩

theorem step_ne_seeking (spec : Spec) (line : List Char) (below : phase ≠ .seeking) :
    (spec.step phase line).1 ≠ .seeking := by
  obtain ⟨later, verdict, hstep, hreads⟩ := spec.exists_reads phase line
  rw [hstep]
  cases hreads with
  | above | header => contradiction
  | row | closing | beyond => nofun
  | noise | passed => exact below

theorem collect_filter_hasMarker (solid : solidEnds spec.marker.toList) (below : phase ≠ .seeking)
    (lines : List (List Char)) :
    Cursor.collect spec ⟨phase, lines.filter fun line => !spec.hasMarker line⟩ =
      Cursor.collect spec ⟨phase, lines⟩ := by
  induction lines generalizing phase with
  | nil => rfl
  | cons line rest ih =>
    rw [Cursor.collect_cons]
    cases hmarked : spec.hasMarker line with
    | true =>
      obtain ⟨hphase, hrows, hevents⟩ := step_of_hasMarker solid hmarked below
      rw [hphase, hrows, hevents, List.filter_cons_of_neg (by rw [hmarked]; nofun), ih below]
      rfl
    | false =>
      rw [List.filter_cons_of_pos (by rw [hmarked]; rfl), Cursor.collect_cons,
        ih (spec.step_ne_seeking line below)]

theorem scanLines_congr_below (solid : solidEnds spec.marker.toList) {header : List Char}
    (marked : spec.hasMarker header) (before : List (List Char)) {after other : List (List Char)}
    (same : (after.filter fun line => !spec.hasMarker line) =
      other.filter fun line => !spec.hasMarker line) :
    spec.scanLines (before ++ header :: after) = spec.scanLines (before ++ header :: other) := by
  -- The header ends the search if nothing before it did, so the induction starts below it.
  have hbelow : (spec.step (spec.phaseAfter .seeking before) header).1 ≠ .seeking := by
    by_cases hphase : spec.phaseAfter .seeking before = .seeking
    · have hheader : occursIn spec.marker.toList header = true := marked
      simp [hphase, step, hheader]
    · exact spec.step_ne_seeking header hphase
  rw [scanLines, scanLines, Cursor.atStart, Cursor.atStart, collect_append, collect_append,
    Cursor.collect_cons, Cursor.collect_cons, ← collect_filter_hasMarker solid hbelow after, same,
    collect_filter_hasMarker solid hbelow other]

theorem rows_step_of_hasMarker (solid : solidEnds spec.marker.toList)
    (marked : spec.hasMarker line) (phase : Phase) : (spec.step phase line).2.rows = [] := by
  by_cases hphase : phase = .seeking
  · rw [hphase, step]
    split <;> rfl
  · exact (step_of_hasMarker solid marked hphase).2.1

end Spec

/-- With solid ends a marker is found in a line exactly if it is found in the trimmed line. A line
with it is a header and gives no row, wherever it stands; and if two texts have the same lines down
to a header, and below it the same lines apart from headers, they have the same rows and events. -/
theorem scan_of_repeated_headers (spec : Spec) (solid : solidEnds spec.marker.toList) :
    (∀ line, spec.hasMarker (trim line) = spec.hasMarker line) ∧
    (∀ line, spec.hasMarker line →
      spec.classOf line = .header ∧ ∀ phase, (spec.step phase line).2.rows = []) ∧
    (∀ (text other : String) (before after otherAfter : List (List Char)) (header : List Char),
      lines text.toList = before ++ header :: after →
      lines other.toList = before ++ header :: otherAfter → spec.hasMarker header →
      (after.filter fun line => !spec.hasMarker line) =
        (otherAfter.filter fun line => !spec.hasMarker line) →
      spec.scan text = spec.scan other) := by
  refine ⟨occursIn_trim solid, fun line marked => ?_, ?_⟩
  · exact ⟨Spec.classOf_of_hasMarker solid marked, Spec.rows_step_of_hasMarker solid marked⟩
  · intro text other before after otherAfter header isText isOther marked same
    rw [Spec.scan, Spec.scan, isText, isOther]
    exact Spec.scanLines_congr_below solid marked before same

/-- Both markers of a report in its own wording have solid ends. Below a row one header comes
padded and with a row in it, and one stands below the blank line. -/
theorem scan_of_repeated_headers_default :
    let wording : Report.Wording := {}
    let text := "Threads | simple_mutex_t\n1 | 2 | 3\n\n4 | 5 | 6\n"
    let other := "Threads | simple_mutex_t\n1 | 2 | 3\n" ++
      " 7 | 8 | 9 Threads | simple_mutex_t\u00a0\n\nThreads | simple_mutex_t\n4 | 5 | 6\n"
    wording.throughputTable.scan text = wording.throughputTable.scan other ∧
      wording.sectionTable.hasMarker (trim "\u3000CS Size (ns) |\t".toList) =
        wording.sectionTable.hasMarker "\u3000CS Size (ns) |\t".toList := by
  intro wording text other
  have hthroughput : solidEnds wording.throughputTable.marker.toList := by decide
  have hsections : solidEnds wording.sectionTable.marker.toList := by decide
  obtain ⟨-, -, hscan⟩ := scan_of_repeated_headers wording.throughputTable hthroughput
  obtain ⟨htrim, -, -⟩ := scan_of_repeated_headers wording.sectionTable hsections
  refine ⟨?_, htrim _⟩
  exact hscan text other [] ["1 | 2 | 3".toList, [], "4 | 5 | 6".toList]
    ["1 | 2 | 3".toList, " 7 | 8 | 9 Threads | simple_mutex_t\u00a0".toList, [],
      "Threads | simple_mutex_t".toList, "4 | 5 | 6".toList]
    "Threads | simple_mutex_t".toList (by decide) (by decide) (by decide) (by decide)

end ContentionCharts.Table
