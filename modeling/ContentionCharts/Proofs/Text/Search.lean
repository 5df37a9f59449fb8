import ContentionCharts.Text.Search
import Mathlib.Data.List.Infix

/-!
Occurrences of a phrase as infixes of the text.
-/
namespace ContentionCharts.Text

theorem isSome_isPrefixOf? (phrase text : List Char) :
    (phrase.isPrefixOf? text).isSome ↔ phrase <+: text := by
  rw [List.isSome_isPrefixOf?_eq_isPrefixOf, List.isPrefixOf_iff_prefix]

theorem occursIn_iff_isInfix (phrase text : List Char) :
    occursIn phrase text ↔ phrase <:+: text := by
  unfold occursIn
  induction text with
  | nil =>
    rw [after?, isSome_isPrefixOf?, List.prefix_nil, List.infix_nil]
  | cons c rest ih =>
    rw [List.infix_cons_iff, ← ih, ← isSome_isPrefixOf?, after?]
    cases phrase.isPrefixOf? (c :: rest) <;> simp

theorem occursIn_of_isInfix {phrase part text : List Char} (h : occursIn phrase part)
    (hpart : part <:+: text) : occursIn phrase text := by
  rw [occursIn_iff_isInfix] at h ⊢
  exact h.trans hpart

theorem after?_eq_findSome?_tails (phrase text : List Char) :
    after? phrase text = text.tails.findSome? phrase.isPrefixOf? := by
  induction text with
  | nil =>
    rw [after?, List.tails, List.findSome?_singleton]
  | cons c rest ih =>
    rw [after?, List.tails_cons, List.findSome?_cons, ih]
    cases phrase.isPrefixOf? (c :: rest) <;> rfl

/-- What follows a later occurrence is a suffix of what follows an earlier one. -/
theorem after?_isSuffix {phrase rest first later : List Char} {c : Char}
    (hfirst : phrase.isPrefixOf? (c :: rest) = some first)
    (hlater : after? phrase rest = some later) : later <:+ first := by
  rw [after?_eq_findSome?_tails] at hlater
  have ⟨tail, htail, hstart⟩ := List.exists_of_findSome?_eq_some hlater
  rw [List.isPrefixOf?_eq_some_iff_append_eq] at hfirst hstart
  have hlength : phrase.length + later.length ≤ rest.length := by
    rw [← List.length_append, hstart]
    exact ((List.mem_tails tail rest).mp htail).length_le
  have hlaterText : later <:+ c :: rest := by
    have hrest : later <:+ rest :=
      (hstart ▸ List.suffix_append phrase later).trans ((List.mem_tails tail rest).mp htail)
    exact hrest.trans (List.suffix_cons c rest)
  have hfirstText : first <:+ c :: rest := hfirst ▸ List.suffix_append phrase first
  have htotal := congrArg List.length hfirst
  rw [List.length_append, List.length_cons] at htotal
  exact List.suffix_of_suffix_length_le hlaterText hfirstText (by omega)

def position? (test : List Char → Bool) (text : List Char) (start : Nat) : Option Nat :=
  (List.range' start (text.length + 1 - start)).find? fun i => test (text.drop i)

theorem position?_eq_some_iff {test : List Char → Bool} {text : List Char} {start i : Nat} :
    position? test text start = some i ↔
      test (text.drop i) ∧ (start ≤ i ∧ i < text.length + 1) ∧
        ∀ k, start ≤ k → k < i → !test (text.drop k) := by
  unfold position?
  rw [List.find?_range'_eq_some, List.mem_range'_1]
  simp only [and_congr_right_iff, and_congr_left_iff]
  intro _ _
  omega

theorem findSome?_eq_bind_find? {α β : Type} (f : α → Option β) (l : List α) :
    l.findSome? f = (l.find? fun x => (f x).isSome).bind f := by
  induction l with
  | nil => rfl
  | cons x rest ih =>
    rw [List.findSome?_cons, List.find?_cons, ih]
    cases hx : f x with
    | none => rfl
    | some value => exact hx.symm

theorem tails_drop {text : List Char} {start : Nat} (h : start ≤ text.length) :
    (text.drop start).tails =
      (List.range' start (text.length + 1 - start)).map fun i => text.drop i := by
  apply List.ext_getElem
  · rw [List.length_tails, List.length_drop, List.length_map, List.length_range']
    omega
  · intro i hi _
    rw [List.getElem_tails, List.getElem_map, List.getElem_range', List.drop_drop, Nat.one_mul]

theorem findSome?_tails_drop {α : Type} (f : List Char → Option α) {text : List Char} {start : Nat}
    (h : start ≤ text.length) :
    (text.drop start).tails.findSome? f =
      (position? (fun tail => (f tail).isSome) text start).bind fun i => f (text.drop i) := by
  rw [tails_drop h, List.findSome?_map, findSome?_eq_bind_find?]
  rfl

theorem position?_isPrefixOf_le {phrase text : List Char} {start i : Nat}
    (h : position? phrase.isPrefixOf text start = some i) :
    i + phrase.length ≤ text.length := by
  rw [position?_eq_some_iff, List.isPrefixOf_iff_prefix] at h
  have hlength := h.1.length_le
  rw [List.length_drop] at hlength
  omega

theorem after?_drop (phrase : List Char) {text : List Char} {start : Nat}
    (h : start ≤ text.length) :
    after? phrase (text.drop start) =
      (position? phrase.isPrefixOf text start).map fun i => text.drop (i + phrase.length) := by
  have htest : (fun tail => (phrase.isPrefixOf? tail).isSome) = phrase.isPrefixOf := by
    funext tail
    exact List.isSome_isPrefixOf?_eq_isPrefixOf phrase tail
  rw [after?_eq_findSome?_tails, findSome?_tails_drop _ h, htest]
  cases hposition : position? phrase.isPrefixOf text start with
  | none => rfl
  | some i =>
    have hprefix : phrase <+: text.drop i :=
      List.isPrefixOf_iff_prefix.mp (position?_eq_some_iff.mp hposition).1
    rw [Option.bind_some, Option.map_some, List.isPrefixOf?_eq_some_iff_append_eq,
      ← List.drop_drop]
    exact List.prefix_iff_eq_append.mp hprefix

end ContentionCharts.Text
