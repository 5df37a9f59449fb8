import ContentionCharts.Number.Natural
import Mathlib.Algebra.Group.Nat.Defs
import Mathlib.Data.List.Induction

/-!
Digits and the number that they stand for. Written out again, the number lacks nothing but the zeros
in front of it; and a key is the number that its digits stand for, or there is no key.
-/
namespace ContentionCharts.Number

theorem toNat_bounds_of_isDigit {c : Char} (h : c.isDigit) : 48 ≤ c.toNat ∧ c.toNat ≤ 57 := by
  simp only [Char.isDigit, Bool.and_eq_true, decide_eq_true_eq, ge_iff_le, UInt32.le_iff_toNat_le]
    at h
  exact h

theorem exists_digitChar {c : Char} (h : c.isDigit) : ∃ d < 10, c = d.digitChar := by
  have hbounds := toNat_bounds_of_isDigit h
  have htoNat : ∀ d < 10, d.digitChar.toNat = 48 + d := by decide
  refine ⟨c.toNat - 48, by omega, ?_⟩
  apply Char.toNat_inj.mp
  rw [htoNat _ (by omega)]
  omega

theorem ofDigitChars_concat (digits : List Char) {d : Nat} (hd : d < 10) :
    Nat.ofDigitChars 10 (digits ++ [d.digitChar]) 0 = 10 * Nat.ofDigitChars 10 digits 0 + d := by
  rw [Nat.ofDigitChars_append, Nat.ofDigitChars_cons_digitChar_of_lt_ten hd, Nat.ofDigitChars_nil]

theorem ofDigitChars_lt {digits : List Char} (h : ∀ c ∈ digits, c.isDigit) :
    Nat.ofDigitChars 10 digits 0 < 10 ^ digits.length := by
  induction digits using List.reverseRecOn with
  | nil => decide
  | append_singleton digits c ih =>
    obtain ⟨d, hd, rfl⟩ := exists_digitChar (h c (by simp))
    have hlt := ih fun c hc => h c (by simp [hc])
    rw [ofDigitChars_concat digits hd, List.length_append, List.length_singleton, Nat.pow_succ]
    omega

theorem replicate_append_toDigits {digits : List Char} (hne : digits ≠ [])
    (h : ∀ c ∈ digits, c.isDigit) :
    List.replicate (digits.length - (Nat.toDigits 10 (Nat.ofDigitChars 10 digits 0)).length) '0' ++
      Nat.toDigits 10 (Nat.ofDigitChars 10 digits 0) = digits := by
  induction digits using List.reverseRecOn with
  | nil => contradiction
  | append_singleton digits c ih =>
    obtain ⟨d, hd, rfl⟩ := exists_digitChar (h c (by simp))
    rw [ofDigitChars_concat digits hd]
    cases digits with
    | nil => simp [Nat.toDigits_of_lt_base hd]
    | cons first rest =>
      have hdigits := ih (by simp) fun c hc => h c (List.mem_append_left _ hc)
      cases Nat.eq_zero_or_pos (Nat.ofDigitChars 10 (first :: rest) 0) with
      | inl hzero =>
        -- Zero is the one number whose digits have a zero in front, which is filled in here.
        rw [hzero, Nat.toDigits_zero, List.length_singleton, List.length_cons,
          Nat.add_sub_cancel, ← List.replicate_succ'] at hdigits
        rw [hzero, Nat.mul_zero, Nat.zero_add, Nat.toDigits_of_lt_base hd, List.length_append,
          List.length_singleton, Nat.add_sub_cancel, List.length_cons, hdigits]
      | inr hpos =>
        rw [← Nat.toDigits_append_toDigits (by decide) hpos hd, Nat.toDigits_of_lt_base hd,
          ← List.append_assoc, List.length_append, List.length_append, List.length_singleton,
          Nat.add_sub_add_right, hdigits]

theorem word?_eq_some_iff {token : List Char} {key : UInt64} :
    word? token = some key ↔
      (dropPlus token ≠ [] ∧ (dropPlus token).all Char.isDigit) ∧
        Nat.ofDigitChars 10 (dropPlus token) 0 = key.toNat := by
  unfold word?
  dsimp only
  by_cases hdigits : dropPlus token ≠ [] ∧ (dropPlus token).all Char.isDigit
  · rw [if_pos hdigits]
    by_cases hfits : Nat.ofDigitChars 10 (dropPlus token) 0 < UInt64.size
    · rw [if_pos hfits, Option.some.injEq, ← UInt64.toNat_inj, UInt64.toNat_ofNat_of_lt' hfits]
      exact (and_iff_right hdigits).symm
    · rw [if_neg hfits]
      refine iff_of_false nofun fun h => hfits ?_
      rw [h.2]
      exact key.toNat_lt
  · rw [if_neg hdigits]
    exact iff_of_false nofun fun h => hdigits h.1

theorem exists_digit_of_word? {token : List Char} {key : UInt64} (h : word? token = some key) :
    ∃ c ∈ token, c.isDigit := by
  unfold word? at h
  dsimp only at h
  split at h
  next hdigits =>
    rcases hdigits with ⟨hne, hall⟩
    rcases List.exists_cons_of_ne_nil hne with ⟨c, rest, hcons⟩
    have hc : c ∈ dropPlus token := by rw [hcons]; exact List.mem_cons_self
    refine ⟨c, ?_, List.all_eq_true.mp hall c hc⟩
    unfold dropPlus at hc
    split at hc
    · exact List.mem_cons_of_mem _ hc
    · exact hc
  next => simp at h

theorem isDigit_or_plus_of_word? {token : List Char} {key : UInt64} (h : word? token = some key)
    {c : Char} (hc : c ∈ token) : c.isDigit ∨ c = '+' := by
  obtain ⟨⟨_, hdigits⟩, _⟩ := word?_eq_some_iff.mp h
  unfold dropPlus at hdigits
  split at hdigits
  · rcases List.mem_cons.mp hc with hplus | hrest
    · exact .inr hplus
    · exact .inl (List.all_eq_true.mp hdigits c hrest)
  · exact .inl (List.all_eq_true.mp hdigits c hc)

theorem word?_eq_none_of_size_le {token : List Char}
    (h : UInt64.size ≤ Nat.ofDigitChars 10 (dropPlus token) 0) : word? token = none := by
  rw [Option.eq_none_iff_forall_ne_some]
  intro key hkey
  have hvalue := (word?_eq_some_iff.mp hkey).2
  have hlt : key.toNat < UInt64.size := key.toNat_lt
  omega

end ContentionCharts.Number
