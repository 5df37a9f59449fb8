import ContentionCharts.Number.Real
import ContentionCharts.Proofs.Number.Digits
import ContentionCharts.Text.DecimalDigit
import Mathlib.Data.List.TakeWhile

/-!
Numbers written with digits of any script, a point and digits. In ASCII digits they have the value
that is written; one digit of another script anywhere, and they have none.
-/
namespace ContentionCharts.Number

open ContentionCharts.Text

theorem ne_of_isDecimalDigit {c other : Char} (hc : isDecimalDigit c)
    (hother : isDecimalDigit other = false) : c ≠ other := by
  intro h
  rw [h, hother] at hc
  contradiction

theorem isDecimalDigit_of_isDigit {c : Char} (h : c.isDigit) : isDecimalDigit c := by
  have hdigits : ∀ d < 10, isDecimalDigit d.digitChar := by decide
  obtain ⟨d, hd, rfl⟩ := exists_digitChar h
  exact hdigits d hd

theorem exists_dropWhile_isDigit {text : List Char} (h : text.all Char.isDigit = false) :
    ∃ c rest, text.dropWhile Char.isDigit = c :: rest ∧ c ∈ text := by
  cases hdrop : text.dropWhile Char.isDigit with
  | nil =>
    rw [List.dropWhile_eq_nil_iff] at hdrop
    rw [List.all_eq_true.mpr hdrop] at h
    contradiction
  | cons c rest =>
    refine ⟨c, rest, rfl, ?_⟩
    apply (List.dropWhile_sublist Char.isDigit).subset
    rw [hdrop]
    exact List.mem_cons_self

theorem exponent?_of_isDecimalDigit {c : Char} (h : isDecimalDigit c) (rest : List Char) :
    exponent? (c :: rest) = none := by
  unfold exponent?
  apply if_neg
  intro hmark
  rcases hmark with hmark | hmark
  · exact ne_of_isDecimalDigit h (by decide) hmark
  · exact ne_of_isDecimalDigit h (by decide) hmark

theorem fraction_of_isDecimalDigit {c : Char} (h : isDecimalDigit c) (rest : List Char) :
    fraction (c :: rest) = ([], c :: rest) := by
  unfold fraction
  split
  · rename_i heq
    rw [List.cons.injEq] at heq
    exact absurd heq.1 (ne_of_isDecimalDigit h (by decide))
  · rfl

theorem decimal?_ratio {whole fraction : List Char} (hwhole : whole ≠ [])
    (h : ∀ c ∈ whole ++ fraction, isDecimalDigit c) :
    decimal? (whole ++ '.' :: fraction) =
      if (whole ++ fraction).all Char.isDigit then
        some (ofDecimal (Nat.ofDigitChars 10 (whole ++ fraction) 0) (-fraction.length))
      else none := by
  unfold decimal?
  rw [List.all_append]
  cases hwholeDigits : whole.all Char.isDigit with
  | false =>
    have ⟨c, rest, hdrop, hc⟩ := exists_dropWhile_isDigit hwholeDigits
    have hdigit := h c (List.mem_append_left _ hc)
    have hstop : (whole ++ '.' :: fraction).dropWhile Char.isDigit =
        c :: (rest ++ '.' :: fraction) := by
      rw [List.dropWhile_append, hdrop]
      rfl
    rw [hstop, fraction_of_isDecimalDigit hdigit]
    dsimp only
    rw [exponent?_of_isDecimalDigit hdigit]
    simp
  | true =>
    rw [List.all_eq_true] at hwholeDigits
    rw [List.takeWhile_append_of_pos hwholeDigits, List.dropWhile_append_of_pos hwholeDigits,
      List.takeWhile_cons_of_neg (by decide), List.dropWhile_cons_of_neg (by decide),
      List.append_nil, Number.fraction]
    cases hfraction : fraction.all Char.isDigit with
    | false =>
      have ⟨c, rest, hdrop, hc⟩ := exists_dropWhile_isDigit hfraction
      rw [hdrop]
      dsimp only
      rw [exponent?_of_isDecimalDigit (h c (List.mem_append_right _ hc))]
      simp
    | true =>
      rw [List.all_eq_true] at hfraction
      rw [List.takeWhile_eq_self_iff.mpr hfraction, List.dropWhile_eq_nil_iff.mpr hfraction]
      simp [exponent?, hwhole]

theorem magnitude?_of_mem_point {text : List Char} (h : '.' ∈ text) :
    magnitude? text = decimal? text := by
  have hlower : '.' ∈ text.map Char.toLower := List.mem_map.mpr ⟨'.', h, by decide⟩
  have hname (name : String) (hname : '.' ∉ name.toList) :
      String.ofList (text.map Char.toLower) ≠ name := by
    intro heq
    rw [← heq, String.toList_ofList] at hname
    exact hname hlower
  unfold magnitude?
  split
  · rename_i heq
    exact absurd heq (hname _ (by decide))
  · rename_i heq
    exact absurd heq (hname _ (by decide))
  · rename_i heq
    exact absurd heq (hname _ (by decide))
  · rfl

theorem real?_ratio {whole fraction : List Char} (hwhole : whole ≠ [])
    (h : ∀ c ∈ whole ++ fraction, isDecimalDigit c) :
    real? (whole ++ '.' :: fraction) =
      if (whole ++ fraction).all Char.isDigit then
        some (ofDecimal (Nat.ofDigitChars 10 (whole ++ fraction) 0) (-fraction.length))
      else none := by
  have hreal : real? (whole ++ '.' :: fraction) = magnitude? (whole ++ '.' :: fraction) := by
    cases whole with
    | nil => contradiction
    | cons c rest =>
      have hc : isDecimalDigit c := h c List.mem_cons_self
      unfold real?
      split
      · rename_i heq
        rw [List.cons_append, List.cons.injEq] at heq
        exact absurd heq.1 (ne_of_isDecimalDigit hc (by decide))
      · rename_i heq
        rw [List.cons_append, List.cons.injEq] at heq
        exact absurd heq.1 (ne_of_isDecimalDigit hc (by decide))
      · rfl
  rw [hreal, magnitude?_of_mem_point (List.mem_append_right _ List.mem_cons_self)]
  exact decimal?_ratio hwhole h

end ContentionCharts.Number
