import ContentionCharts.Text.Blank
import Mathlib.Data.List.TakeWhile

/-!
Blanks at the ends of a text mean nothing to its first word. Trimming at the front follows the text
from its first character on; for the end the same is shown here once, in `trimEnd_cons`.
-/
namespace ContentionCharts.Text

theorem trimStart_cons_of_blank {c : Char} (h : isBlank c) (rest : List Char) :
    trimStart (c :: rest) = trimStart rest := by
  simp [trimStart, h]

theorem trimStart_cons_of_solid {c : Char} (h : isBlank c = false) (rest : List Char) :
    trimStart (c :: rest) = c :: rest := by
  simp [trimStart, h]

theorem trimStart_trimStart (text : List Char) : trimStart (trimStart text) = trimStart text := by
  induction text with
  | nil => rfl
  | cons c rest ih =>
    cases h : isBlank c with
    | false => rw [trimStart_cons_of_solid h, trimStart_cons_of_solid h]
    | true => rw [trimStart_cons_of_blank h, ih]

theorem trimEnd_cons (c : Char) (rest : List Char) :
    trimEnd (c :: rest) = if trimEnd rest = [] ∧ isBlank c then [] else c :: trimEnd rest := by
  unfold trimEnd
  rw [List.reverse_cons, List.dropWhile_append]
  cases hrest : rest.reverse.dropWhile isBlank with
  | nil => cases h : isBlank c <;> simp [h]
  | cons last before => simp

theorem trimEnd_cons_congr {a b : List Char} (c : Char) (h : trimEnd a = trimEnd b) :
    trimEnd (c :: a) = trimEnd (c :: b) := by
  rw [trimEnd_cons, trimEnd_cons, h]

theorem trim_isInfix (text : List Char) : trim text <:+: text := by
  have hstart : trimStart text <:+ text := List.dropWhile_suffix isBlank
  have hend : trimEnd (trimStart text) <+: trimStart text := by
    have h := List.reverse_prefix.mpr
      (List.dropWhile_suffix (l := (trimStart text).reverse) isBlank)
    rwa [List.reverse_reverse] at h
  exact hend.isInfix.trans hstart.isInfix

theorem trimEnd_eq_nil_iff (text : List Char) : trimEnd text = [] ↔ ∀ c ∈ text, isBlank c := by
  induction text with
  | nil => simp [trimEnd]
  | cons c rest ih =>
    rw [trimEnd_cons, List.forall_mem_cons, ← ih]
    by_cases h : trimEnd rest = [] ∧ isBlank c
    · rw [if_pos h]
      exact iff_of_true rfl h.symm
    · rw [if_neg h]
      exact iff_of_false (by simp) fun hboth => h hboth.symm

theorem trim_eq_nil_iff (text : List Char) : trim text = [] ↔ ∀ c ∈ text, isBlank c := by
  unfold trim
  rw [trimEnd_eq_nil_iff]
  induction text with
  | nil => simp [trimStart]
  | cons c rest ih =>
    rw [List.forall_mem_cons]
    cases h : isBlank c with
    | false => simp [trimStart_cons_of_solid h, h]
    | true => simpa [trimStart_cons_of_blank h] using ih

theorem trim_concat_of_blank (text : List Char) {c : Char} (h : isBlank c) :
    trim (text ++ [c]) = trim text := by
  have hend (before : List Char) : trimEnd (before ++ [c]) = trimEnd before := by
    simp [trimEnd, h]
  unfold trim trimStart
  rw [List.dropWhile_append]
  cases hstart : text.dropWhile isBlank with
  | nil => simp [h]
  | cons first rest => simpa using hend (first :: rest)

/-! A phrase with solid ends is out of reach of trimming. -/

/-- There are a first and a last character, and neither is blank. -/
def solidEnds (phrase : List Char) : Bool :=
  (phrase.head?.any fun c => !isBlank c) && phrase.getLast?.any fun c => !isBlank c

theorem isInfix_trimStart {phrase text : List Char}
    (solid : phrase.head?.any fun c => !isBlank c) (h : phrase <:+: text) :
    phrase <:+: trimStart text := by
  induction text with
  | nil => exact h
  | cons c rest ih =>
    cases hc : isBlank c with
    | false => rwa [trimStart_cons_of_solid hc]
    | true =>
      rw [trimStart_cons_of_blank hc]
      rcases List.infix_cons_iff.mp h with hstart | hrest
      · -- The phrase would begin with this blank.
        cases phrase with
        | nil => contradiction
        | cons first others =>
          rw [List.cons_prefix_cons] at hstart
          simp [hstart.1, hc] at solid
      · exact ih hrest

theorem isInfix_trimEnd {phrase text : List Char}
    (solid : phrase.getLast?.any fun c => !isBlank c) (h : phrase <:+: text) :
    phrase <:+: trimEnd text := by
  have hreversed : phrase.reverse <:+: trimStart text.reverse := by
    apply isInfix_trimStart
    · rwa [List.head?_reverse]
    · rwa [List.reverse_infix]
  rwa [← List.reverse_infix, List.reverse_reverse] at hreversed

theorem isInfix_trim_iff {phrase : List Char} (solid : solidEnds phrase) (text : List Char) :
    phrase <:+: trim text ↔ phrase <:+: text := by
  rw [solidEnds, Bool.and_eq_true] at solid
  constructor
  · intro h
    exact h.trans (trim_isInfix text)
  · intro h
    exact isInfix_trimEnd solid.2 (isInfix_trimStart solid.1 h)

/-! The first word. -/

def leadingWord (text : List Char) : List Char :=
  text.takeWhile fun c => !isBlank c

theorem firstWord?_congr {a b : List Char}
    (h : leadingWord (trimStart a) = leadingWord (trimStart b)) :
    firstWord? a = firstWord? b := by
  unfold leadingWord at h
  unfold firstWord?
  rw [h]

theorem firstWord?_trimStart (text : List Char) : firstWord? (trimStart text) = firstWord? text :=
  firstWord?_congr (by rw [trimStart_trimStart])

theorem leadingWord_trimEnd (text : List Char) :
    leadingWord (trimEnd text) = leadingWord text := by
  induction text with
  | nil => rfl
  | cons c rest ih =>
    unfold leadingWord at ih ⊢
    rw [trimEnd_cons]
    cases h : isBlank c with
    | false => simp [h, ih]
    | true =>
      by_cases hrest : trimEnd rest = [] <;> simp [h, hrest]

theorem firstWord?_trimEnd (text : List Char) : firstWord? (trimEnd text) = firstWord? text := by
  apply firstWord?_congr
  induction text with
  | nil => rfl
  | cons c rest ih =>
    cases h : isBlank c with
    | false =>
      have hend : trimEnd (c :: rest) = c :: trimEnd rest := by simp [trimEnd_cons, h]
      rw [hend, trimStart_cons_of_solid h, ← hend, leadingWord_trimEnd,
        trimStart_cons_of_solid h]
    | true =>
      rw [trimStart_cons_of_blank h, ← ih, trimEnd_cons]
      by_cases hrest : trimEnd rest = []
      · rw [if_pos ⟨hrest, h⟩, hrest]
      · rw [if_neg fun hboth => hrest hboth.1, trimStart_cons_of_blank h]

theorem mem_of_firstWord? {text word : List Char} (h : firstWord? text = some word) {c : Char}
    (hc : c ∈ word) : c ∈ text := by
  unfold firstWord? at h
  split at h
  next => simp at h
  next hfound =>
    cases h
    have hmem : c ∈ trimStart text := (List.takeWhile_prefix _).subset hc
    exact (List.dropWhile_suffix isBlank).subset hmem

theorem firstWord?_append {before word after : List Char} (hbefore : ∀ c ∈ before, isBlank c)
    (hne : word ≠ []) (hword : ∀ c ∈ word, isBlank c = false)
    (hafter : ∀ c ∈ after.head?, isBlank c) :
    firstWord? (before ++ word ++ after) = some word := by
  have hstart : trimStart (before ++ word ++ after) = word ++ after := by
    unfold trimStart
    rw [List.append_assoc, List.dropWhile_append_of_pos hbefore]
    cases word with
    | nil => exact absurd rfl hne
    | cons c rest => simp [hword c List.mem_cons_self]
  have hleading : (word ++ after).takeWhile (fun c => !isBlank c) = word := by
    rw [List.takeWhile_append_of_pos (by simpa using hword)]
    cases after with
    | nil => simp
    | cons c rest => simp [hafter c rfl]
  unfold firstWord?
  rw [hstart, hleading]
  cases word with
  | nil => exact absurd rfl hne
  | cons c rest => rfl

/-- The first word of a text, said without looking for it. A blank text has none; else there are
blanks before it, and after it nothing or a blank with any text. -/
inductive FirstWord : List Char → Option (List Char) → Prop
  | none {text : List Char} (blank : ∀ c ∈ text, isBlank c) : FirstWord text none
  | some {before word after : List Char} (blank_before : ∀ c ∈ before, isBlank c)
      (nonempty : word ≠ []) (solid : ∀ c ∈ word, isBlank c = false)
      (blank_after : ∀ c ∈ after.head?, isBlank c) : FirstWord (before ++ word ++ after) (some word)

theorem FirstWord.cons_of_blank {c : Char} {text : List Char} {word : Option (List Char)}
    (hc : isBlank c) (h : FirstWord text word) : FirstWord (c :: text) word := by
  cases h with
  | none blank => exact .none (List.forall_mem_cons.mpr ⟨hc, blank⟩)
  | @some before _ _ blank_before nonempty solid blank_after =>
    have hbefore : ∀ d ∈ c :: before, isBlank d := List.forall_mem_cons.mpr ⟨hc, blank_before⟩
    exact .some hbefore nonempty solid blank_after

theorem firstWord_firstWord? (text : List Char) : FirstWord text (firstWord? text) := by
  induction text with
  | nil => exact .none fun _ hc => absurd hc List.not_mem_nil
  | cons c rest ih =>
    cases hc : isBlank c with
    | true =>
      rw [← firstWord?_trimStart, trimStart_cons_of_blank hc, firstWord?_trimStart]
      exact ih.cons_of_blank hc
    | false =>
      have hword : firstWord? (c :: rest) = some (c :: leadingWord rest) := by
        simp [firstWord?, leadingWord, trimStart_cons_of_solid hc, hc]
      have hsplit : c :: rest =
          [] ++ (c :: leadingWord rest) ++ rest.dropWhile fun d => !isBlank d := by
        unfold leadingWord
        rw [List.nil_append, List.cons_append, List.takeWhile_append_dropWhile]
      rw [hword, hsplit]
      refine .some (fun _ hd => absurd hd List.not_mem_nil) (List.cons_ne_nil _ _) ?solid ?after
      case solid =>
        have hall : (leadingWord rest).all (fun d => !isBlank d) := List.all_takeWhile
        rw [List.all_eq_true] at hall
        rw [List.forall_mem_cons]
        exact ⟨hc, fun d hd => (Bool.not_eq_true' _).mp (hall d hd)⟩
      case after =>
        intro d hd
        have hstop := List.head?_dropWhile_not (fun d => !isBlank d) rest
        rw [Option.mem_def.mp hd] at hstop
        simpa using hstop

theorem firstWord?_eq_iff {text : List Char} {word : Option (List Char)} :
    firstWord? text = word ↔ FirstWord text word := by
  constructor
  · rintro rfl
    exact firstWord_firstWord? text
  · intro h
    cases h with
    | none blank =>
      have hstart : trimStart text = [] := List.dropWhile_eq_nil_iff.mpr blank
      rw [← firstWord?_trimStart, hstart]
      rfl
    | some blank_before nonempty solid blank_after =>
      exact firstWord?_append blank_before nonempty solid blank_after

end ContentionCharts.Text
