import ContentionCharts.Proofs.Report.LineRatio

/-!
Two ways to end a line. A carriage return before every line feed belongs to the endings of the
lines that the tables are read from, but to the text that the ratios are looked for in. It is found
by neither search: no phrase has it, and it stands where a line feed would have stopped a number.
-/
namespace ContentionCharts.Text

def withReturns (text : List Char) : List Char :=
  text.flatMap fun c => if c = '\n' then ['\r', '\n'] else [c]

theorem withReturns_cons_feed (rest : List Char) :
    withReturns ('\n' :: rest) = '\r' :: '\n' :: withReturns rest :=
  rfl

theorem withReturns_cons_of_ne {c : Char} (h : c ≠ '\n') (rest : List Char) :
    withReturns (c :: rest) = c :: withReturns rest := by
  simp [withReturns, h]

theorem withReturns_append (text rest : List Char) :
    withReturns (text ++ rest) = withReturns text ++ withReturns rest := by
  simp [withReturns]

theorem withReturns_of_notMem {line : List Char} (h : '\n' ∉ line) : withReturns line = line := by
  induction line with
  | nil => rfl
  | cons c rest ih =>
    rw [List.mem_cons, not_or] at h
    rw [withReturns_cons_of_ne (Ne.symm h.1), ih h.2]

theorem withReturns_append_feed {line : List Char} (h : '\n' ∉ line) (rest : List Char) :
    withReturns (line ++ '\n' :: rest) = line ++ '\r' :: '\n' :: withReturns rest := by
  rw [withReturns_append, withReturns_of_notMem h, withReturns_cons_feed]

theorem lines_withReturns {text : List Char} (h : '\r' ∉ text) :
    lines (withReturns text) = lines text := by
  induction text using lineInduction with
  | last line hline => rw [withReturns_of_notMem hline]
  | feed line rest hline ih =>
    rw [List.mem_append, List.mem_cons, not_or, not_or] at h
    have hlast : line.getLast? ≠ some '\r' := fun hlast => h.1 (List.mem_of_getLast? hlast)
    have hreturn : dropReturn (line ++ ['\r']) = line := by simp [dropReturn]
    have hsplit : line ++ '\r' :: '\n' :: withReturns rest =
        (line ++ ['\r']) ++ '\n' :: withReturns rest := by simp
    rw [withReturns_append_feed hline, hsplit, lines_append_cons (by simpa using hline),
      lines_append_cons hline, hreturn, dropReturn_of_getLast? hlast, ih h.2.2]

/-- No ending of a line interrupts the phrase. -/
def OnOneLine (phrase : List Char) : Prop :=
  '\r' ∉ phrase ∧ '\n' ∉ phrase

instance : DecidablePred OnOneLine := fun _ => inferInstanceAs (Decidable (_ ∧ _))

theorem onOneLine_cons {a : Char} {phrase : List Char} :
    OnOneLine (a :: phrase) ↔ (a ≠ '\r' ∧ a ≠ '\n') ∧ OnOneLine phrase := by
  simp only [OnOneLine, List.mem_cons, not_or, ne_comm (b := a)]
  exact and_and_and_comm

theorem isPrefixOf?_withReturns {phrase : List Char} (h : OnOneLine phrase)
    (text : List Char) :
    phrase.isPrefixOf? (withReturns text) = (phrase.isPrefixOf? text).map withReturns := by
  induction phrase generalizing text with
  | nil => simp [List.isPrefixOf?]
  | cons a phrase ih =>
    rw [onOneLine_cons] at h
    cases text with
    | nil => rfl
    | cons c rest =>
      by_cases hfeed : c = '\n'
      · subst hfeed
        simp [withReturns_cons_feed, List.isPrefixOf?, h.1.1, h.1.2]
      · rw [withReturns_cons_of_ne hfeed, List.isPrefixOf?, List.isPrefixOf?, ih h.2]
        split <;> rfl

/-- A search from the left comes to the same in both texts, if it fits at corresponding positions
and if a line feed by itself gives it nothing that the return before it did not. -/
theorem findSome?_tails_withReturns {α : Type} {f : List Char → Option α} {g : α → α}
    (same : ∀ tail, f (withReturns tail) = (f tail).map g)
    (feed : ∀ tail, f ('\n' :: tail) = none → f ('\n' :: withReturns tail) = none)
    (text : List Char) :
    (withReturns text).tails.findSome? f = (text.tails.findSome? f).map g := by
  induction text with
  | nil =>
    have hnil := same []
    simpa [withReturns] using hnil
  | cons c rest ih =>
    have hhere := same (c :: rest)
    rw [List.tails_cons, List.findSome?_cons]
    by_cases hfeed : c = '\n'
    · subst hfeed
      rw [withReturns_cons_feed] at hhere ⊢
      rw [List.tails_cons, List.findSome?_cons, List.tails_cons, List.findSome?_cons, hhere, ih]
      cases hfound : f ('\n' :: rest) with
      | some found => rfl
      | none => rw [feed rest hfound]; rfl
    · rw [withReturns_cons_of_ne hfeed] at hhere ⊢
      rw [List.tails_cons, List.findSome?_cons, hhere, ih]
      cases f (c :: rest) <;> rfl

theorem after?_withReturns {phrase : List Char} (h : OnOneLine phrase)
    (text : List Char) :
    after? phrase (withReturns text) = (after? phrase text).map withReturns := by
  simp only [after?_eq_findSome?_tails]
  apply findSome?_tails_withReturns (isPrefixOf?_withReturns h)
  intro tail hnone
  cases phrase with
  | nil => simp [List.isPrefixOf?] at hnone
  | cons a phrase => simp [List.isPrefixOf?, (onOneLine_cons.mp h).1.2]

end ContentionCharts.Text

namespace ContentionCharts.Report

open ContentionCharts.Table ContentionCharts.Text ContentionCharts.Number

theorem ratioAtStart?_withReturns (text : List Char) :
    ratioAtStart? (withReturns text) = ratioAtStart? text := by
  induction text using lineInduction with
  | last line hline => rw [withReturns_of_notMem hline]
  | feed line rest hline _ =>
    rw [withReturns_append_feed hline, ratioAtStart?_append_break,
      ratioAtStart?_append_cons (by decide) (by decide)]

theorem ratioAtStart?_cons_feed (rest : List Char) : ratioAtStart? ('\n' :: rest) = none :=
  ratioAtStart?_append_break [] rest

theorem firstRatio?_withReturns (text : List Char) :
    firstRatio? (withReturns text) = firstRatio? text := by
  have hsearch := findSome?_tails_withReturns (f := ratioAtStart?) (g := id)
    (fun tail => by rw [ratioAtStart?_withReturns, Option.map_id_apply])
    (fun tail _ => ratioAtStart?_cons_feed (withReturns tail)) text
  rw [firstRatio?_eq_findSome?_tails, firstRatio?_eq_findSome?_tails, hsearch,
    Option.map_id_apply]

theorem candidateRatio?_withReturns {label : List Char} (h : OnOneLine label)
    (text : List Char) : candidateRatio? label (withReturns text) = candidateRatio? label text := by
  have hphrase : OnOneLine candidatePhrase := by decide
  unfold candidateRatio?
  rw [after?_withReturns h]
  cases after? label text with
  | none => rfl
  | some afterLabel =>
    rw [Option.map_some, Option.bind_some, Option.bind_some, after?_withReturns hphrase]
    cases after? candidatePhrase afterLabel with
    | none => rfl
    | some afterPhrase => exact firstRatio?_withReturns afterPhrase

theorem firstRatio?_concat {c : Char} (hdigit : isDecimalDigit c = false) (hpoint : c ≠ '.')
    (text : List Char) : firstRatio? (text ++ [c]) = firstRatio? text := by
  rw [firstRatio?_eq_findSome?_tails, firstRatio?_eq_findSome?_tails, List.tails_append,
    List.findSome?_append, List.findSome?_map]
  simp only [Function.comp_def, ratioAtStart?_append_cons hdigit hpoint]
  exact Option.or_none

theorem firstRatio?_restOfLine_withReturns (text : List Char) :
    firstRatio? (restOfLine (withReturns text)) = firstRatio? (restOfLine text) := by
  induction text using lineInduction with
  | last line hline => rw [withReturns_of_notMem hline]
  | feed line rest hline _ =>
    have hsplit : line ++ '\r' :: '\n' :: withReturns rest =
        (line ++ ['\r']) ++ '\n' :: withReturns rest := by simp
    have hreturn : '\n' ∉ line ++ ['\r'] := by simpa using hline
    rw [withReturns_append_feed hline, hsplit, restOfLine_append_break, restOfLine_append_break,
      restOfLine_of_notMem hreturn, restOfLine_of_notMem hline,
      firstRatio?_concat (by decide) (by decide)]

theorem ratioBeside?_withReturns {phrase : List Char} (h : OnOneLine phrase)
    (text : List Char) : ratioBeside? phrase (withReturns text) = ratioBeside? phrase text := by
  unfold ratioBeside?
  rw [isPrefixOf?_withReturns h]
  cases phrase.isPrefixOf? text with
  | none => rfl
  | some following => exact firstRatio?_restOfLine_withReturns following

theorem referenceRatio?_withReturns {phrase : List Char} (h : OnOneLine phrase)
    (text : List Char) :
    referenceRatio? phrase (withReturns text) = referenceRatio? phrase text := by
  have hsearch := findSome?_tails_withReturns (f := ratioBeside? phrase) (g := id)
    (fun tail => by rw [ratioBeside?_withReturns h, Option.map_id_apply])
    (fun tail hnone => by
      have hhere := ratioBeside?_append_break h.2 [] tail
      have hreturns := ratioBeside?_append_break h.2 [] (withReturns tail)
      rw [List.nil_append] at hhere hreturns
      rw [hreturns, ← hhere, hnone]) text
  rw [referenceRatio?_eq_findSome?_tails, referenceRatio?_eq_findSome?_tails, hsearch,
    Option.map_id_apply]

/-- Whether lines end with a line feed alone or with a carriage return before it, the same is read
from them and the same is said about it: in every text that has no carriage return of its own, if
the phrases that announce the ratios are on one line. -/
theorem read_withReturns (wording : Wording) (text : String) (plain : '\r' ∉ text.toList)
    (hlabel : OnOneLine wording.candidateLabel.toList)
    (hphrase : OnOneLine wording.referenceFairness.toList) :
    wording.read (String.ofList (withReturns text.toList)) = wording.read text := by
  have hscan (table : Spec) :
      table.scan (String.ofList (withReturns text.toList)) = table.scan text := by
    unfold Spec.scan
    rw [String.toList_ofList, lines_withReturns plain]
  have hseries (table : Spec) (what : String) :
      Wording.readSeries table what (String.ofList (withReturns text.toList)) =
        Wording.readSeries table what text := by
    unfold Wording.readSeries
    rw [hscan]
  have hfairness : wording.readFairness (String.ofList (withReturns text.toList)) =
      wording.readFairness text := by
    unfold Wording.readFairness
    rw [String.toList_ofList, candidateRatio?_withReturns hlabel,
      referenceRatio?_withReturns hphrase]
  unfold Wording.read Wording.readThroughput Wording.readSections
  rw [hseries, hseries, hfairness]

set_option maxRecDepth 4096 in
/-- A report with everything in it: rows and a discarded line, a ratio some lines below its label,
one beside its phrase, and no line feed at the end. -/
theorem read_withReturns_report :
    let text := "Threads | simple_mutex_t\n1 | 2 | 3\nx | 4 | 5\n\nsimple_mutex_t\n" ++
      "Fairness ratio:\n0.8\nPthread fairness ratio\nPthread fairness ratio 0.9\n" ++
      "CS Size (ns) |\n10 | 2 | 3"
    '\r' ∉ text.toList ∧
      (Wording.read {} (String.ofList (withReturns text.toList))).value.fairness.candidate =
        some (ofDecimal 8 (-1)) ∧
      Wording.read {} (String.ofList (withReturns text.toList)) = Wording.read {} text := by
  intro text
  have hplain : '\r' ∉ text.toList := by decide
  have hread := read_withReturns {} text hplain (by decide) (by decide)
  refine ⟨hplain, ?_, hread⟩
  rw [hread]
  decide

end ContentionCharts.Report
