import ContentionCharts.Proofs.Report.Ratio
import ContentionCharts.Proofs.Text.Line

/-!
The reference's ratio. A line feed stops the gap between its phrase and its number, so a search of
the whole text starts over at later occurrences of the phrase; it comes to the same as a search of
one line after the other, each with its first phrase and the first number after that.
-/
namespace ContentionCharts.Report

open ContentionCharts.Text ContentionCharts.Number

def referencePattern (phrase : List Char) : Pattern :=
  .seq (.phrase phrase) (.seq (.gap fun c => c != '\n') ratioPattern)

def lineRatio? (phrase line : List Char) : Option (List Char) :=
  (after? phrase line).bind firstRatio?

def linePosition? (phrase line : List Char) : Option Nat :=
  (position? phrase.isPrefixOf line 0).bind fun j =>
    position? startsRatio line (j + phrase.length)

/-! What a line feed does to a search. -/

theorem takeWhile_append_cons_of_neg {p : Char → Bool} {c : Char} (h : p c = false)
    (before rest : List Char) : (before ++ c :: rest).takeWhile p = before.takeWhile p := by
  rw [List.takeWhile_append, List.takeWhile_cons_of_neg (by simp [h]), List.append_nil]
  split
  · rename_i hall
    exact ((List.takeWhile_prefix p).eq_of_length hall).symm
  · rfl

theorem dropWhile_append_cons_of_neg {p : Char → Bool} {c : Char} (h : p c = false)
    (before rest : List Char) :
    (before ++ c :: rest).dropWhile p = before.dropWhile p ++ c :: rest := by
  rw [List.dropWhile_append, List.dropWhile_cons_of_neg (by simp [h])]
  split
  · rename_i hall
    rw [List.isEmpty_iff.mp hall, List.nil_append]
  · rfl

theorem isPrefixOf?_append_cons {phrase : List Char} {c : Char} (h : c ∉ phrase)
    (before rest : List Char) :
    phrase.isPrefixOf? (before ++ c :: rest) =
      (phrase.isPrefixOf? before).map (· ++ c :: rest) := by
  induction phrase generalizing before with
  | nil => rfl
  | cons a phrase ih =>
    rw [List.mem_cons, not_or] at h
    cases before with
    | nil =>
      have hhead : (a == c) = false := beq_false_of_ne (Ne.symm h.1)
      simp [List.isPrefixOf?, hhead]
    | cons b before =>
      rw [List.cons_append, List.isPrefixOf?, List.isPrefixOf?, ih h.2]
      split <;> rfl

theorem restOfLine_append_break (before rest : List Char) :
    restOfLine (before ++ '\n' :: rest) = restOfLine before :=
  takeWhile_append_cons_of_neg (by decide) before rest

theorem restOfLine_of_notMem {line : List Char} (h : '\n' ∉ line) : restOfLine line = line := by
  apply List.takeWhile_eq_self_iff.mpr
  intro c hc
  exact bne_iff_ne.mpr (ne_of_mem_of_not_mem hc h)

theorem ratioAtStart?_append_cons {c : Char} (hdigit : isDecimalDigit c = false) (hpoint : c ≠ '.')
    (before rest : List Char) : ratioAtStart? (before ++ c :: rest) = ratioAtStart? before := by
  have hdrop := dropWhile_append_cons_of_neg hdigit before rest
  rcases Classical.exists_or_forall_not fun tail => before.dropWhile isDecimalDigit = '.' :: tail
    with ⟨tail, htail⟩ | hnone
  · rw [htail, List.cons_append] at hdrop
    rw [ratioAtStart?_of_point hdrop, ratioAtStart?_of_point htail,
      takeWhile_append_cons_of_neg hdigit, takeWhile_append_cons_of_neg hdigit]
  · rw [ratioAtStart?_of_no_point hnone, ratioAtStart?_of_no_point]
    intro tail htail
    rw [hdrop] at htail
    cases hrest : before.dropWhile isDecimalDigit with
    | nil =>
      rw [hrest, List.nil_append] at htail
      exact hpoint (List.cons.inj htail).1
    | cons d more =>
      rw [hrest, List.cons_append] at htail
      exact hnone more (by rw [hrest, (List.cons.inj htail).1])

theorem ratioAtStart?_append_break (before rest : List Char) :
    ratioAtStart? (before ++ '\n' :: rest) = ratioAtStart? before :=
  ratioAtStart?_append_cons (by decide) (by decide) before rest

theorem ratioBeside?_append_break {phrase : List Char} (h : '\n' ∉ phrase)
    (before rest : List Char) :
    ratioBeside? phrase (before ++ '\n' :: rest) = ratioBeside? phrase before := by
  unfold ratioBeside?
  rw [isPrefixOf?_append_cons h, Option.bind_map]
  simp only [Function.comp_def, restOfLine_append_break]

theorem dropWhile_line_eq_nil_or_break (text : List Char) :
    text.dropWhile (fun c => c != '\n') = [] ∨
      ∃ rest, text.dropWhile (fun c => c != '\n') = '\n' :: rest := by
  cases hdrop : text.dropWhile (fun c => c != '\n') with
  | nil => exact .inl rfl
  | cons c rest =>
    have hc := List.head_dropWhile_not (fun c => c != '\n') (l := text) (by simp [hdrop])
    simp only [hdrop, List.head_cons] at hc
    right
    exact ⟨rest, by simpa using hc⟩

/-! The match of the pattern. -/

theorem group_referencePattern (phrase text : List Char) :
    ((referencePattern phrase).first? text).map Fit.group =
      (ratioBeside? phrase text).map some := by
  have hgap (following : List Char) :
      ((Pattern.seq (.gap fun c => c != '\n') ratioPattern).first? following).map Fit.group =
        (firstRatio? (restOfLine following)).map some := by
    have hline (tail : List Char) :
        ratioAtStart? (tail ++ following.dropWhile fun c => c != '\n') = ratioAtStart? tail := by
      rcases dropWhile_line_eq_nil_or_break following with hdrop | ⟨rest, hdrop⟩
      · rw [hdrop, List.append_nil]
      · rw [hdrop, ratioAtStart?_append_break]
    rw [Pattern.group_gap_seq_eq_findSome?_tails, firstRatio?_eq_findSome?_tails,
      List.map_findSome?]
    simp only [first?_ratioPattern, hline]
    rfl
  unfold referencePattern ratioBeside?
  rw [Pattern.group_phrase_seq, Option.map_bind]
  simp only [hgap]
  rfl

theorem referenceRatio?_eq_findSome?_tails (phrase text : List Char) :
    referenceRatio? phrase text = text.tails.findSome? (ratioBeside? phrase) := by
  induction text with
  | nil => cases phrase <;> rfl
  | cons c rest ih =>
    rw [referenceRatio?, List.tails_cons, List.findSome?_cons, ih]
    cases ratioBeside? phrase (c :: rest) <;> rfl

theorem search_referencePattern (phrase text : List Char) :
    (referencePattern phrase).search text = (referenceRatio? phrase text).map some := by
  unfold Pattern.search
  rw [referenceRatio?_eq_findSome?_tails, List.map_findSome?]
  simp only [group_referencePattern]
  rfl

/-! Line by line. -/

theorem referenceRatio?_append_break {phrase : List Char} (h : '\n' ∉ phrase)
    (line rest : List Char) :
    referenceRatio? phrase (line ++ '\n' :: rest) =
      (referenceRatio? phrase line).or (referenceRatio? phrase rest) := by
  simp only [referenceRatio?_eq_findSome?_tails]
  rw [List.tails_append, List.findSome?_append, List.findSome?_map, List.tails_cons, List.tail_cons]
  simp only [Function.comp_def, ratioBeside?_append_break h]

theorem firstRatio?_eq_none_of_isSuffix {text tail : List Char} (h : firstRatio? text = none)
    (htail : tail <:+ text) : firstRatio? tail = none := by
  rw [firstRatio?_eq_findSome?_tails, List.findSome?_eq_none_iff] at h ⊢
  intro start hstart
  rw [List.mem_tails] at hstart
  exact h start ((List.mem_tails start text).mpr (hstart.trans htail))

theorem ratioBeside?_of_line (phrase : List Char) {line : List Char} (h : '\n' ∉ line) :
    ratioBeside? phrase line = (phrase.isPrefixOf? line).bind firstRatio? := by
  unfold ratioBeside?
  cases hstart : phrase.isPrefixOf? line with
  | none => rfl
  | some following =>
    have hline := List.isPrefixOf?_eq_some_iff_append_eq.mp hstart
    have hfollowing : '\n' ∉ following := fun hmem => h (hline ▸ List.mem_append_right phrase hmem)
    rw [Option.bind_some, Option.bind_some, restOfLine_of_notMem hfollowing]

/-- In one line nothing is gained by a later phrase: what is to the right of it is to the right of
the first one too. -/
theorem referenceRatio?_of_line (phrase : List Char) {line : List Char} (h : '\n' ∉ line) :
    referenceRatio? phrase line = lineRatio? phrase line := by
  unfold lineRatio?
  induction line with
  | nil => cases phrase <;> rfl
  | cons c rest ih =>
    have hrest : '\n' ∉ rest := fun hmem => h (List.mem_cons_of_mem c hmem)
    rw [referenceRatio?, ratioBeside?_of_line phrase h, ih hrest, after?]
    cases hstart : phrase.isPrefixOf? (c :: rest) with
    | none => rfl
    | some following =>
      cases hfound : firstRatio? following with
      | some ratio => simp [hfound]
      | none =>
        simp only [Option.bind_some, hfound]
        rw [Option.bind_eq_none_iff]
        intro later hlater
        exact firstRatio?_eq_none_of_isSuffix hfound (after?_isSuffix hstart hlater)

theorem referenceRatio?_eq_findSome?_lines {phrase : List Char} (h : '\n' ∉ phrase)
    (text : List Char) :
    referenceRatio? phrase text = (text.splitOn '\n').findSome? (lineRatio? phrase) := by
  induction text using lineInduction with
  | last line hline =>
    rw [referenceRatio?_of_line phrase hline, List.splitOn_eq_singleton hline,
      List.findSome?_singleton]
  | feed line rest hline ih =>
    rw [referenceRatio?_append_break h, List.splitOn_append_cons_self_of_not_mem hline,
      List.findSome?_cons, referenceRatio?_of_line phrase hline, ih]
    cases lineRatio? phrase line <;> rfl

theorem lineRatio?_eq (phrase line : List Char) :
    lineRatio? phrase line = (linePosition? phrase line).map fun q => ratioText (line.drop q) := by
  have hphrase := after?_drop phrase (Nat.zero_le line.length)
  rw [List.drop_zero] at hphrase
  unfold lineRatio? linePosition?
  rw [hphrase]
  cases hj : position? phrase.isPrefixOf line 0 with
  | none => rfl
  | some j =>
    rw [Option.map_some, Option.bind_some, Option.bind_some,
      firstRatio?_drop (position?_isPrefixOf_le hj)]

theorem lineRatio?_bind_real? (phrase line : List Char) :
    (lineRatio? phrase line).bind real? =
      (linePosition? phrase line).bind fun q => ratioValue? (line.drop q) := by
  rw [lineRatio?_eq]
  cases hposition : linePosition? phrase line with
  | none => rfl
  | some q =>
    unfold linePosition? at hposition
    rw [Option.bind_eq_some_iff] at hposition
    have ⟨j, _, hq⟩ := hposition
    exact real?_ratioText (position?_eq_some_iff.mp hq).1

theorem findSome?_lineRatio?_eq_filter (phrase : List Char) (lines : List (List Char)) :
    lines.findSome? (lineRatio? phrase) =
      (lines.filter (occursIn phrase)).findSome? (lineRatio? phrase) := by
  induction lines with
  | nil => rfl
  | cons line lines ih =>
    rw [List.findSome?_cons, ih]
    cases hphrase : occursIn phrase line with
    | true => rw [List.filter_cons_of_pos hphrase, List.findSome?_cons]
    | false =>
      have hnone : lineRatio? phrase line = none := by
        unfold occursIn at hphrase
        rw [Option.isSome_eq_false_iff, Option.isNone_iff_eq_none] at hphrase
        rw [lineRatio?, hphrase, Option.bind_none]
      rw [hnone, List.filter_cons_of_neg (by simp [hphrase])]

theorem readFairness_reference_value {wording : Wording}
    (h : '\n' ∉ wording.referenceFairness.toList) (text : String) :
    (wording.readFairness text).value.reference =
      ((text.toList.splitOn '\n').findSome?
        (lineRatio? wording.referenceFairness.toList)).bind real? := by
  rw [← referenceRatio?_eq_findSome?_lines h]
  rfl

/-- The reference's ratio in every text, if its phrase is on one line. The pattern's match is the
number that a search of line after line finds; the first line with a number to the right of its
first phrase decides, and there is no ratio if the digits of that number are not all ASCII. Lines
without the phrase can come and go. -/
theorem readFairness_reference (wording : Wording) (text : String)
    (h : '\n' ∉ wording.referenceFairness.toList) :
    let phrase := wording.referenceFairness.toList
    let linesOf (given : String) := given.toList.splitOn '\n'
    let ratio (given : String) := (wording.readFairness given).value.reference
    let chosen := (linesOf text).find? fun line => (linePosition? phrase line).isSome
    (referencePattern phrase).search text.toList =
        chosen.bind (fun line =>
          (linePosition? phrase line).map fun q => some (ratioText (line.drop q))) ∧
      ratio text = ((referencePattern phrase).search text.toList).join.bind real? ∧
      ratio text = chosen.bind (fun line =>
        (linePosition? phrase line).bind fun q => ratioValue? (line.drop q)) ∧
      ∀ other, (linesOf other).filter (occursIn phrase) = (linesOf text).filter (occursIn phrase) →
        ratio other = ratio text := by
  intro phrase linesOf ratio chosen
  have hratio (given : String) :
      ratio given = ((linesOf given).findSome? (lineRatio? phrase)).bind real? :=
    readFairness_reference_value h given
  have hchosen : (linesOf text).findSome? (lineRatio? phrase) =
      chosen.bind (lineRatio? phrase) := by
    have htest : (fun line => (lineRatio? phrase line).isSome) =
        fun line => (linePosition? phrase line).isSome := by
      funext line
      rw [lineRatio?_eq, Option.isSome_map]
    rw [findSome?_eq_bind_find?, htest]
  have hsearch : (referencePattern phrase).search text.toList =
      (chosen.bind (lineRatio? phrase)).map some := by
    rw [search_referencePattern, referenceRatio?_eq_findSome?_lines h, hchosen]
  refine ⟨?_, ?_, ?_, ?_⟩
  · rw [hsearch, Option.map_bind]
    simp only [Function.comp_def, lineRatio?_eq, Option.map_map]
  · rw [hsearch, hratio, hchosen]
    cases chosen.bind (lineRatio? phrase) <;> rfl
  · rw [hratio, hchosen, Option.bind_assoc]
    simp only [lineRatio?_bind_real?]
  · intro other hother
    rw [hratio, hratio, findSome?_lineRatio?_eq_filter, hother, ← findSome?_lineRatio?_eq_filter]

set_option maxRecDepth 4096 in
/-- A phrase that ends in a digit and overlaps itself; numbers on other lines, phrases without a
number, and the same text with lines added and taken away. -/
theorem readFairness_reference_overlapping :
    let wording : Wording := { referenceFairness := "1.1" }
    let text := "0.75\r\n1.1 none\n0.5\nx 1.1.12.5 1.1 9.5\r\n1.1 8.5"
    let other := "1.1 none\n\n7.5\nx 1.1.12.5 1.1 9.5\r\n1.1 8.5\n6.5"
    let ratio := ofDecimal 125 (-1)
    '\n' ∉ wording.referenceFairness.toList ∧
      (wording.readFairness text).value.reference = some ratio ∧
      (wording.readFairness other).value.reference = some ratio := by
  intro wording text other ratio
  have hphrase : '\n' ∉ wording.referenceFairness.toList := by decide
  have h := readFairness_reference wording text hphrase
  have hratio : (wording.readFairness text).value.reference = some ratio :=
    h.2.2.1.trans (by decide)
  exact ⟨hphrase, hratio, (h.2.2.2 other (by decide)).trans hratio⟩

end ContentionCharts.Report
