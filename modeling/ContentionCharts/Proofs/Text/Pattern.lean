import ContentionCharts.Proofs.Text.Search
import Mathlib.Data.List.TakeWhile

/-!
Search patterns: phrases, runs of characters, one after the other, and a group whose characters are
wanted. A pattern can fit in several ways at one position; they stand in the order in which a
backtracking search tries them, and a search takes the first way at the first position that has one.
-/
namespace ContentionCharts.Text

inductive Pattern where
  | phrase (text : List Char)
  /-- Any number of admitted characters, rather few than many. -/
  | gap (admits : Char → Bool)
  /-- One admitted character or more, rather many than few. -/
  | run (admits : Char → Bool)
  | seq (first next : Pattern)
  | group (inner : Pattern)

/-- One way to fit: the characters taken, those of them in the group, and the text after them. -/
structure Fit where
  taken : List Char
  group : Option (List Char)
  rest : List Char

namespace Fit

def cons (c : Char) (fit : Fit) : Fit :=
  { fit with taken := c :: fit.taken }

def append (first next : Fit) : Fit :=
  ⟨first.taken ++ next.taken, next.group.or first.group, next.rest⟩

theorem cons_append (c : Char) (first next : Fit) :
    (first.cons c).append next = (first.append next).cons c :=
  rfl

end Fit

namespace Pattern

def shortestFirst (admits : Char → Bool) : List Char → List Fit
  | [] => [⟨[], none, []⟩]
  | c :: rest =>
    ⟨[], none, c :: rest⟩ ::
      if admits c then (shortestFirst admits rest).map (Fit.cons c) else []

def longestFirst (admits : Char → Bool) : List Char → List Fit
  | [] => []
  | c :: rest =>
    if admits c then (longestFirst admits rest).map (Fit.cons c) ++ [⟨[c], none, rest⟩] else []

def fits : Pattern → List Char → List Fit
  | phrase text, given => ((text.isPrefixOf? given).map fun rest => ⟨text, none, rest⟩).toList
  | gap admits, given => shortestFirst admits given
  | run admits, given => longestFirst admits given
  | seq first next, given =>
    (first.fits given).flatMap fun fit => (next.fits fit.rest).map fit.append
  | group inner, given => (inner.fits given).map fun fit => { fit with group := some fit.taken }

def first? (pattern : Pattern) (text : List Char) : Option Fit :=
  (pattern.fits text).head?

def search (pattern : Pattern) (text : List Char) : Option (Option (List Char)) :=
  text.tails.findSome? fun tail => (pattern.first? tail).map Fit.group

theorem first?_seq (first next : Pattern) (text : List Char) :
    (seq first next).first? text =
      (first.fits text).findSome? fun fit => (next.first? fit.rest).map fit.append := by
  unfold first?
  rw [fits, List.head?_flatMap]
  simp only [List.head?_map]

theorem first?_phrase_seq (phrase text : List Char) (next : Pattern) :
    (seq (.phrase phrase) next).first? text = (phrase.isPrefixOf? text).bind fun rest =>
      (next.first? rest).map (Fit.append ⟨phrase, none, rest⟩) := by
  rw [first?_seq, fits]
  cases phrase.isPrefixOf? text with
  | none => rfl
  | some rest => simp

theorem first?_group (inner : Pattern) (text : List Char) :
    (group inner).first? text =
      (inner.first? text).map fun fit => { fit with group := some fit.taken } := by
  unfold first?
  rw [fits, List.head?_map]

theorem search_nil (pattern : Pattern) :
    pattern.search [] = (pattern.first? []).map Fit.group := by
  unfold search
  simp

theorem search_cons (pattern : Pattern) (c : Char) (rest : List Char) :
    pattern.search (c :: rest) =
      ((pattern.first? (c :: rest)).map Fit.group).or (pattern.search rest) := by
  unfold search
  rw [List.tails_cons, List.findSome?_cons]
  cases (pattern.first? (c :: rest)).map Fit.group <;> rfl

theorem search_eq_none_of_isSuffix {pattern : Pattern} {text tail : List Char}
    (h : pattern.search text = none) (htail : tail <:+ text) : pattern.search tail = none := by
  unfold search at h ⊢
  rw [List.findSome?_eq_none_iff] at h ⊢
  intro start hstart
  rw [List.mem_tails] at hstart
  exact h start ((List.mem_tails start text).mpr (hstart.trans htail))

theorem group_gap_seq_eq_findSome?_tails (admits : Char → Bool) (next : Pattern)
    (text : List Char) :
    ((seq (gap admits) next).first? text).map Fit.group =
      (text.takeWhile admits).tails.findSome? fun tail =>
        (next.first? (tail ++ text.dropWhile admits)).map Fit.group := by
  rw [first?_seq, fits, List.map_findSome?]
  induction text with
  | nil =>
    rw [shortestFirst, List.findSome?_singleton]
    simp [Function.comp_def, Fit.append]
  | cons c rest ih =>
    rw [shortestFirst, List.findSome?_cons]
    cases hc : admits c with
    | false => cases hnext : next.first? (c :: rest) <;> simp [hc, hnext, Fit.append]
    | true =>
      rw [if_pos rfl, List.findSome?_map, List.takeWhile_cons_of_pos hc,
        List.dropWhile_cons_of_pos hc, List.tails_cons, List.findSome?_cons, ← ih,
        List.cons_append, List.takeWhile_append_dropWhile]
      cases hnext : next.first? (c :: rest) with
      | some fit => simp [hnext, Fit.append]
      | none =>
        simp only [hnext, Option.map_none, Function.comp_def, Option.map_map]
        rfl

/-- A gap that admits everything looks for what comes next as a search does. -/
theorem group_gap_seq (next : Pattern) (text : List Char) :
    ((seq (gap fun _ => true) next).first? text).map Fit.group = next.search text := by
  rw [group_gap_seq_eq_findSome?_tails, List.takeWhile_eq_self_iff.mpr fun _ _ => rfl,
    List.dropWhile_eq_nil_iff.mpr fun _ _ => rfl]
  simp only [List.append_nil]
  rfl

theorem group_phrase_seq (phrase text : List Char) (next : Pattern) :
    ((seq (.phrase phrase) next).first? text).map Fit.group =
      (phrase.isPrefixOf? text).bind fun rest => (next.first? rest).map Fit.group := by
  rw [first?_phrase_seq, Option.map_bind]
  simp only [Option.map_map, Function.comp_def, Fit.append, Option.or_none]

/-- What follows a phrase and any gap is found after the phrase's first occurrence or nowhere: the
texts after later occurrences are suffixes of the one after the first. -/
theorem search_phrase_gap (phrase text : List Char) (next : Pattern) :
    (seq (.phrase phrase) (.seq (gap fun _ => true) next)).search text =
      (after? phrase text).bind next.search := by
  induction text with
  | nil =>
    rw [search_nil, group_phrase_seq, after?]
    simp only [group_gap_seq]
  | cons c rest ih =>
    rw [search_cons, group_phrase_seq, ih, after?]
    simp only [group_gap_seq]
    cases hstart : phrase.isPrefixOf? (c :: rest) with
    | none => rfl
    | some following =>
      cases hfound : next.search following with
      | some group => simp [hfound]
      | none =>
        rw [Option.bind_some, hfound, Option.none_or, Option.bind_eq_none_iff]
        intro later hlater
        exact search_eq_none_of_isSuffix hfound (after?_isSuffix hstart hlater)

example : (seq (.phrase ['a']) (.seq (gap fun _ => true) (.group (.run Char.isDigit)))).search
    "1a--23-4 a5".toList = some (some ['2', '3']) := by decide

theorem longestFirst_of_takeWhile_nil {admits : Char → Bool} {text : List Char}
    (h : text.takeWhile admits = []) : longestFirst admits text = [] := by
  cases text with
  | nil => rfl
  | cons c rest =>
    rw [longestFirst, if_neg]
    intro hc
    rw [List.takeWhile_cons_of_pos hc] at h
    contradiction

theorem longestFirst_of_takeWhile {admits : Char → Bool} {text : List Char}
    (h : text.takeWhile admits ≠ []) :
    ∃ shorter, longestFirst admits text =
        ⟨text.takeWhile admits, none, text.dropWhile admits⟩ :: shorter ∧
      ∀ fit ∈ shorter, ∃ c rest, admits c ∧ fit.rest = c :: rest := by
  induction text with
  | nil => contradiction
  | cons c rest ih =>
    have hc : admits c := by
      by_contra hc
      exact h (List.takeWhile_cons_of_neg hc)
    rw [longestFirst, if_pos hc, List.takeWhile_cons_of_pos hc, List.dropWhile_cons_of_pos hc]
    by_cases hrest : rest.takeWhile admits = []
    · have hdrop : rest.dropWhile admits = rest := by
        have happend := List.takeWhile_append_dropWhile (p := admits) (l := rest)
        rwa [hrest, List.nil_append] at happend
      rw [longestFirst_of_takeWhile_nil hrest, hrest, hdrop]
      exact ⟨[], rfl, fun _ hfit => absurd hfit List.not_mem_nil⟩
    · have ⟨shorter, hlist, hshorter⟩ := ih hrest
      refine ⟨shorter.map (Fit.cons c) ++ [⟨[c], none, rest⟩], by rw [hlist]; rfl, ?_⟩
      intro fit hfit
      rw [List.mem_append, List.mem_map, List.mem_singleton] at hfit
      rcases hfit with ⟨fit, hfit, rfl⟩ | rfl
      · exact hshorter fit hfit
      · cases rest with
        | nil => contradiction
        | cons d rest =>
          refine ⟨d, rest, ?_, rfl⟩
          by_contra hd
          exact hrest (List.takeWhile_cons_of_neg hd)

theorem first?_run (admits : Char → Bool) (text : List Char) :
    (run admits).first? text =
      if text.takeWhile admits = [] then none
      else some ⟨text.takeWhile admits, none, text.dropWhile admits⟩ := by
  unfold first?
  rw [fits]
  by_cases h : text.takeWhile admits = []
  · rw [if_pos h, longestFirst_of_takeWhile_nil h, List.head?_nil]
  · have ⟨shorter, hlist, _⟩ := longestFirst_of_takeWhile h
    rw [if_neg h, hlist, List.head?_cons]

/-- A run takes all it can also in front of what cannot begin with an admitted character. -/
theorem first?_run_seq {admits : Char → Bool} {next : Pattern}
    (hnext : ∀ c rest, admits c → next.first? (c :: rest) = none) (text : List Char) :
    (seq (run admits) next).first? text =
      if text.takeWhile admits = [] then none
      else (next.first? (text.dropWhile admits)).map
        (Fit.append ⟨text.takeWhile admits, none, text.dropWhile admits⟩) := by
  rw [first?_seq, fits]
  by_cases h : text.takeWhile admits = []
  · rw [if_pos h, longestFirst_of_takeWhile_nil h, List.findSome?_nil]
  · have ⟨shorter, hlist, hshorter⟩ := longestFirst_of_takeWhile h
    have hnone : shorter.findSome? (fun fit => (next.first? fit.rest).map fit.append) = none := by
      rw [List.findSome?_eq_none_iff]
      intro fit hfit
      have ⟨c, rest, hc, hrest⟩ := hshorter fit hfit
      rw [hrest, hnext c rest hc, Option.map_none]
    rw [if_neg h, hlist, List.findSome?_cons, hnone]
    cases next.first? (text.dropWhile admits) <;> rfl

end Pattern

end ContentionCharts.Text
