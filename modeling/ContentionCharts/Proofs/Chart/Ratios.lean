import ContentionCharts.Chart.Design
import ContentionCharts.Proofs.Number.Thousandths
import ContentionCharts.Proofs.Report.LineRatio

/-!
The bar chart as a reader of the report sees it. Every ratio has one slot with one bar and one note
over it, under the name of its contender; and a ratio that was printed with three decimals is noted
in the digits of the report.
-/
namespace ContentionCharts

open ContentionCharts.Report ContentionCharts.Number ContentionCharts.Text

namespace BarChart

def barsAt (chart : BarChart) (slot : Nat) : List Bar :=
  chart.bars.filter fun bar => bar.slot = slot

def notesAt (chart : BarChart) (slot : Nat) : List Note :=
  chart.notes.filter fun note => note.slot = slot

/-- A contender has a slot. Wherever its name is, one bar has the value of its ratio, and one note
just over the bar says what is printed. -/
structure Shows (chart : BarChart) (contender : Contender) (ratio : Float) (printed : String) :
    Prop where
  named : contender.key ∈ chart.barLabels
  bar : ∀ slot, chart.barLabels[slot]? = some contender.key →
    (chart.barsAt slot).map Bar.value = [ratio]
  note : ∀ slot, chart.barLabels[slot]? = some contender.key →
    chart.notesAt slot = [⟨printed, slot, ratio + 0.01⟩]

end BarChart

def Report.Wording.fairnessPattern (wording : Wording) : Contender → Pattern
  | .candidate => candidatePattern wording.candidateLabel.toList
  | .reference => referencePattern wording.referenceFairness.toList

theorem filter_mapIdx {α β : Type} {place : β → Nat} {f : Nat → α → β}
    (hplace : ∀ i a, place (f i a) = i) (entries : List α) (i : Nat) :
    (entries.mapIdx f).filter (fun b => place b = i) = entries[i]?.toList.map (f i) := by
  induction entries using List.reverseRecOn with
  | nil => rfl
  | append_singleton entries a ih =>
    rw [List.mapIdx_concat, List.filter_append, ih]
    rcases Nat.lt_trichotomy i entries.length with hi | hi | hi
    · rw [List.getElem?_append_left hi]
      simp [hplace, Nat.ne_of_gt hi]
    · simp [hplace, hi]
    · have hend : (entries ++ [a]).length ≤ i := by simpa using Nat.succ_le_of_lt hi
      rw [List.getElem?_eq_none hend]
      simp [hplace, Nat.ne_of_lt hi, Nat.le_of_lt hi]

theorem Report.Contender.key_injective : Function.Injective Contender.key := by
  intro contender other h
  cases contender <;> cases other <;> first | rfl | exact absurd h (by decide)

theorem Report.Fairness.mem_present {fairness : Fairness} {contender : Contender} {ratio : Float} :
    (contender, ratio) ∈ fairness.present ↔ fairness.get? contender = some ratio := by
  have hall : contender ∈ Contender.all := by cases contender <;> decide
  simp [Fairness.present, hall]

theorem Report.Wording.get?_readFairness (wording : Wording) (contender : Contender)
    (text : String) :
    (wording.readFairness text).value.get? contender =
      ((wording.fairnessPattern contender).search text.toList).join.bind real? := by
  cases contender with
  | candidate =>
    rw [fairnessPattern, search_candidatePattern]
    change (candidateRatio? _ _).bind real? = _
    cases candidateRatio? wording.candidateLabel.toList text.toList <;> rfl
  | reference =>
    rw [fairnessPattern, search_referencePattern]
    change (referenceRatio? _ _).bind real? = _
    cases referenceRatio? wording.referenceFairness.toList text.toList <;> rfl

section Slots

variable (settings : Settings) (wording : Wording) (entries : List (Contender × Float))
  (path : Path)

theorem barsAt_layOutRatios (slot : Nat) :
    (layOutRatios settings wording entries path).barsAt slot =
      entries[slot]?.toList.map fun (_, ratio) =>
        ⟨slot, ratio, settings.pixels 30, (slotColor slot).fill⟩ :=
  filter_mapIdx (fun _ _ => rfl) entries slot

theorem notesAt_layOutRatios (slot : Nat) :
    (layOutRatios settings wording entries path).notesAt slot =
      entries[slot]?.toList.map fun (_, ratio) => ⟨thousandths ratio, slot, ratio + 0.01⟩ :=
  filter_mapIdx (fun _ _ => rfl) entries slot

end Slots

namespace Presentation

variable {presentation : Presentation} {findings : Findings} {contender : Contender}
  {ratio : Float}

theorem exists_shows_ratio (h : findings.fairness.get? contender = some ratio)
    (explicit : Option Path) :
    ∃ chart, presentation.design findings .fairness explicit = .ok (.bars chart) ∧
      chart.Shows contender ratio (thousandths ratio) := by
  have hpresent := Fairness.mem_present.mpr h
  let chart := layOutRatios presentation.settings presentation.wording findings.fairness.present
    (presentation.destination .fairness explicit)
  have hdesign : presentation.design findings .fairness explicit = .ok (.bars chart) := by
    unfold design
    dsimp only
    split
    · rename_i hnone
      rw [hnone] at hpresent
      contradiction
    · rfl
  have hentry (slot : Nat) (hslot : chart.barLabels[slot]? = some contender.key) :
      findings.fairness.present[slot]? = some (contender, ratio) := by
    obtain ⟨⟨other, value⟩, hentry, hkey⟩ : ∃ entry,
        findings.fairness.present[slot]? = some entry ∧ entry.1.key = contender.key := by
      simpa [chart, layOutRatios] using hslot
    have hother : other = contender := Contender.key_injective hkey
    subst hother
    have hvalue := Fairness.mem_present.mp (List.mem_of_getElem? hentry)
    rw [h, Option.some.injEq] at hvalue
    rw [hentry, hvalue]
  refine ⟨chart, hdesign, ?named, ?bar, ?note⟩
  case named => exact List.mem_map.mpr ⟨_, hpresent, rfl⟩
  case bar =>
    intro slot hslot
    rw [barsAt_layOutRatios, hentry slot hslot]
    rfl
  case note =>
    intro slot hslot
    rw [notesAt_layOutRatios, hentry slot hslot]
    rfl

/-- The chart shows the ratio that the report printed. A contender whose ratio is found with three
ASCII digits after the point, and before it a number below ten to the twelfth without needless
zeros, has the digits that were found over its bar. -/
theorem shows_found_ratio (presentation : Presentation) (text : String) (contender : Contender)
    (explicit : Option Path) {whole : Nat} {fraction : List Char} (hwhole : whole < 10 ^ 12)
    (hlength : fraction.length = 3) (hdigits : fraction.all Char.isDigit)
    (hfound : (presentation.wording.fairnessPattern contender).search text.toList =
      some (some (Nat.toDigits 10 whole ++ '.' :: fraction))) :
    let findings := (presentation.wording.read text).value
    let printed := String.ofList (Nat.toDigits 10 whole ++ '.' :: fraction)
    ∃ ratio chart, findings.fairness.get? contender = some ratio ∧
      presentation.design findings .fairness explicit = .ok (.bars chart) ∧
      chart.Shows contender ratio printed := by
  intro findings printed
  obtain ⟨ratio, hreal, hprinted⟩ :=
    exists_real?_thousandths hwhole hlength (List.all_eq_true.mp hdigits)
  have hratio : findings.fairness.get? contender = some ratio := by
    have hread := presentation.wording.get?_readFairness contender text
    rw [hfound] at hread
    exact hread.trans hreal
  obtain ⟨chart, hdesign, hshows⟩ := exists_shows_ratio hratio explicit
  rw [hprinted] at hshows
  exact ⟨ratio, chart, hratio, hdesign, hshows⟩

set_option maxRecDepth 4096 in
/-- The largest of these ratios, and a small one with zeros around its digit in the other slot. -/
theorem shows_found_ratio_largest :
    let presentation : Presentation := {}
    let text := "simple_mutex_t\nFairness ratio: 999999999999.999\nPthread fairness ratio 0.070\n"
    let findings := (presentation.wording.read text).value
    let Shown (contender : Contender) (printed : String) := ∃ ratio chart,
      findings.fairness.get? contender = some ratio ∧
      presentation.design findings .fairness none = .ok (.bars chart) ∧
      chart.Shows contender ratio printed
    Shown .candidate "999999999999.999" ∧ Shown .reference "0.070" := by
  intro presentation text findings Shown
  have hcandidate : (presentation.wording.fairnessPattern .candidate).search text.toList =
      some (some (Nat.toDigits 10 999999999999 ++ ".999".toList)) := by
    rw [Wording.fairnessPattern, search_candidatePattern]
    decide
  have hreference : (presentation.wording.fairnessPattern .reference).search text.toList =
      some (some (Nat.toDigits 10 0 ++ ".070".toList)) := by
    rw [Wording.fairnessPattern, search_referencePattern]
    decide
  constructor
  · exact shows_found_ratio presentation text .candidate none (by decide) rfl (by decide) hcandidate
  · exact shows_found_ratio presentation text .reference none (by decide) rfl (by decide) hreference

end Presentation

end ContentionCharts
