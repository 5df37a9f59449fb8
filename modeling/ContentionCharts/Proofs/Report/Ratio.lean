import ContentionCharts.Proofs.Number.Decimal
import ContentionCharts.Proofs.Number.Unsigned
import ContentionCharts.Proofs.Text.Pattern
import ContentionCharts.Report.Reading

/-!
The candidate's ratio. Its pattern has two gaps and a number in it, but nothing is left for a search
to try out: the first label, the first phrase after it and the first number after that decide.
-/
namespace ContentionCharts.Report

open ContentionCharts.Text ContentionCharts.Number

def fractionPattern : Pattern :=
  .seq (.phrase ['.']) (.run isDecimalDigit)

def ratioPattern : Pattern :=
  .group (.seq (.run isDecimalDigit) fractionPattern)

def candidatePattern (label : List Char) : Pattern :=
  .seq (.phrase label) (.seq (.gap fun _ => true)
    (.seq (.phrase candidatePhrase) (.seq (.gap fun _ => true) ratioPattern)))

def startsRatio (text : List Char) : Bool :=
  text.takeWhile isDecimalDigit ≠ [] &&
    match text.dropWhile isDecimalDigit with
    | c :: next :: _ => c == '.' && isDecimalDigit next
    | _ => false

def wholeDigits (text : List Char) : List Char :=
  text.takeWhile isDecimalDigit

def fractionDigits (text : List Char) : List Char :=
  (text.drop ((wholeDigits text).length + 1)).takeWhile isDecimalDigit

def ratioText (text : List Char) : List Char :=
  wholeDigits text ++ '.' :: fractionDigits text

def ratioValue? (text : List Char) : Option Float :=
  let digits := wholeDigits text ++ fractionDigits text
  if digits.all Char.isDigit then
    some (ofDecimal (Nat.ofDigitChars 10 digits 0) (-(fractionDigits text).length))
  else none

theorem drop_wholeDigits (text : List Char) :
    text.drop (wholeDigits text).length = text.dropWhile isDecimalDigit := by
  have hdrop : (wholeDigits text ++ text.dropWhile isDecimalDigit).drop (wholeDigits text).length =
      text.dropWhile isDecimalDigit := List.drop_left
  unfold wholeDigits at hdrop ⊢
  rwa [List.takeWhile_append_dropWhile] at hdrop

theorem ratioAtStart?_of_point {text rest : List Char}
    (h : text.dropWhile isDecimalDigit = '.' :: rest) :
    ratioAtStart? text =
      if text.takeWhile isDecimalDigit = [] ∨ rest.takeWhile isDecimalDigit = [] then none
      else some (text.takeWhile isDecimalDigit ++ '.' :: rest.takeWhile isDecimalDigit) := by
  unfold ratioAtStart?
  rw [h]
  rfl

theorem ratioAtStart?_of_no_point {text : List Char}
    (h : ∀ rest, text.dropWhile isDecimalDigit ≠ '.' :: rest) : ratioAtStart? text = none := by
  unfold ratioAtStart?
  split
  · rename_i hpoint
    exact absurd hpoint (h _)
  · rfl

theorem ratioAtStart?_eq (text : List Char) :
    ratioAtStart? text = if startsRatio text then some (ratioText text) else none := by
  unfold startsRatio ratioText fractionDigits
  rw [← List.drop_drop, drop_wholeDigits]
  unfold wholeDigits
  rcases Classical.exists_or_forall_not fun rest => text.dropWhile isDecimalDigit = '.' :: rest
    with ⟨rest, hdrop⟩ | hdrop
  · rw [ratioAtStart?_of_point hdrop, hdrop]
    by_cases hwhole : text.takeWhile isDecimalDigit = []
    · simp [hwhole]
    · cases rest with
      | nil => simp
      | cons next rest => cases hnext : isDecimalDigit next <;> simp [hnext, hwhole]
  · rw [ratioAtStart?_of_no_point hdrop, if_neg]
    intro hstarts
    rw [Bool.and_eq_true] at hstarts
    have htail := hstarts.2
    split at htail
    · rename_i c next rest heq
      rw [Bool.and_eq_true, beq_iff_eq] at htail
      exact hdrop (next :: rest) (by rw [heq, htail.1])
    · contradiction

theorem firstRatio?_eq_findSome?_tails (text : List Char) :
    firstRatio? text = text.tails.findSome? ratioAtStart? := by
  induction text with
  | nil => rfl
  | cons c rest ih =>
    rw [firstRatio?, List.tails_cons, List.findSome?_cons, ih]
    cases ratioAtStart? (c :: rest) <;> rfl

theorem firstRatio?_drop {text : List Char} {start : Nat} (h : start ≤ text.length) :
    firstRatio? (text.drop start) =
      (position? startsRatio text start).map fun q => ratioText (text.drop q) := by
  have htest : (fun tail => (ratioAtStart? tail).isSome) = startsRatio := by
    funext tail
    rw [ratioAtStart?_eq]
    cases startsRatio tail <;> rfl
  rw [firstRatio?_eq_findSome?_tails, findSome?_tails_drop _ h, htest]
  cases hposition : position? startsRatio text start with
  | none => rfl
  | some q =>
    rw [position?_eq_some_iff] at hposition
    rw [Option.bind_some, Option.map_some, ratioAtStart?_eq, if_pos hposition.1]

theorem real?_ratioText {text : List Char} (h : startsRatio text) :
    real? (ratioText text) = ratioValue? text := by
  unfold startsRatio at h
  rw [Bool.and_eq_true, decide_eq_true_eq] at h
  apply real?_ratio h.1
  intro c hc
  rw [List.mem_append] at hc
  rcases hc with hc | hc
  · exact List.mem_takeWhile_imp hc
  · exact List.mem_takeWhile_imp hc

/-! The match of the pattern. -/

theorem first?_fractionPattern_point (rest : List Char) :
    fractionPattern.first? ('.' :: rest) =
      if rest.takeWhile isDecimalDigit = [] then none
      else some ⟨'.' :: rest.takeWhile isDecimalDigit, none, rest.dropWhile isDecimalDigit⟩ := by
  unfold fractionPattern
  rw [Pattern.first?_phrase_seq, List.isPrefixOf?, if_pos (beq_self_eq_true _), List.isPrefixOf?,
    Option.bind_some, Pattern.first?_run]
  split <;> rfl

theorem first?_fractionPattern_no_point {text : List Char} (h : ∀ rest, text ≠ '.' :: rest) :
    fractionPattern.first? text = none := by
  unfold fractionPattern
  rw [Pattern.first?_phrase_seq]
  cases text with
  | nil => rfl
  | cons c rest =>
    rw [List.isPrefixOf?, if_neg, Option.bind_none]
    intro hc
    exact h rest (by rw [← beq_iff_eq.mp hc])

theorem first?_ratioPattern (text : List Char) :
    (ratioPattern.first? text).map Fit.group = (ratioAtStart? text).map some := by
  have hdigit (c : Char) (rest : List Char) (hc : isDecimalDigit c) :
      fractionPattern.first? (c :: rest) = none := by
    -- a run with fewer digits would leave a digit where the point has to be
    apply first?_fractionPattern_no_point
    intro tail htail
    exact ne_of_isDecimalDigit hc (by decide) (List.cons.inj htail).1
  unfold ratioPattern
  rw [Pattern.first?_group, Pattern.first?_run_seq hdigit]
  rcases Classical.exists_or_forall_not fun rest => text.dropWhile isDecimalDigit = '.' :: rest
    with ⟨rest, hdrop⟩ | hdrop
  · rw [ratioAtStart?_of_point hdrop, hdrop, first?_fractionPattern_point]
    by_cases hwhole : text.takeWhile isDecimalDigit = []
    · simp [hwhole]
    · by_cases hfraction : rest.takeWhile isDecimalDigit = []
      · simp [hfraction]
      · simp [hwhole, hfraction, Fit.append]
  · rw [ratioAtStart?_of_no_point hdrop, first?_fractionPattern_no_point hdrop]
    split <;> rfl

theorem search_candidatePattern (label text : List Char) :
    (candidatePattern label).search text = (candidateRatio? label text).map some := by
  have hratio : ratioPattern.search = fun tail => (firstRatio? tail).map some := by
    funext tail
    unfold Pattern.search
    rw [firstRatio?_eq_findSome?_tails, List.map_findSome?]
    simp only [first?_ratioPattern]
    rfl
  have hphrase : (Pattern.seq (.phrase candidatePhrase)
      (.seq (.gap fun _ => true) ratioPattern)).search =
      fun tail => ((after? candidatePhrase tail).bind firstRatio?).map some := by
    funext tail
    rw [Pattern.search_phrase_gap, hratio, Option.map_bind]
    rfl
  unfold candidatePattern candidateRatio?
  rw [Pattern.search_phrase_gap, hphrase, Option.bind_assoc, Option.map_bind]
  rfl

/-! Texts that differ in their line breaks. -/

end ContentionCharts.Report
