import ContentionCharts.Number.Rounding
import ContentionCharts.Proofs.Number.Decimal
import ContentionCharts.Proofs.Number.Normal

/-!
Three decimals there and back. The double nearest to a number of thousandths is so close to it that
printing three decimals gives the same number of thousandths, as long as there are fewer than ten to
the fifteenth; and three decimals are the digits that were read.
-/
namespace ContentionCharts.Number

open Float.Model Float.Model.UnpackedFloat Text

theorem nearestEven_eq {numerator denominator n : Nat}
    (hlower : 2 * n * denominator < 2 * numerator + denominator)
    (hupper : 2 * numerator < 2 * n * denominator + denominator) :
    nearestEven numerator denominator = n := by
  have hdivision := Nat.div_add_mod numerator denominator
  rw [Nat.mul_assoc] at hlower hupper
  unfold nearestEven
  dsimp only
  by_cases hbelow : numerator < n * denominator
  · obtain ⟨floor, rfl⟩ : ∃ floor, n = floor + 1 := Nat.exists_eq_add_one.mpr (by
      apply Nat.pos_of_ne_zero
      intro hzero
      simp [hzero] at hbelow)
    rw [Nat.add_mul, Nat.one_mul] at hlower hbelow
    have hfloor : numerator / denominator = floor := by
      apply Nat.div_eq_of_lt_le
      · omega
      · rw [Nat.succ_mul]
        exact hbelow
    rw [hfloor, Nat.mul_comm] at hdivision
    rw [hfloor, Nat.compare_eq_gt.mpr (by omega)]
  · have hfloor : numerator / denominator = n := by
      apply Nat.div_eq_of_lt_le
      · omega
      · rw [Nat.succ_mul]
        omega
    rw [hfloor, Nat.mul_comm] at hdivision
    rw [hfloor, Nat.compare_eq_lt.mpr (by omega)]

/-- A mantissa that is off by less than half a thousandth is rounded to the thousandths. Both sides
are compared in the unit of the last bit before the mantissa was rounded by `k` bits. -/
theorem nearestEven_mantissa {n mantissa d k : Nat} (hunit : 13 ≤ d + k)
    (hlower : n * 2 ^ (d + k) ≤ 1000 * (mantissa * 2 ^ k) + 3000)
    (hupper : 1000 * (mantissa * 2 ^ k) ≤ n * 2 ^ (d + k) + 3000) :
    nearestEven (1000 * mantissa) (2 ^ d) = n := by
  have hhalf : 2 ^ 13 ≤ 2 ^ (d + k) := Nat.pow_le_pow_right (by decide) hunit
  rw [Nat.pow_add] at hlower hupper hhalf
  apply nearestEven_eq
  · apply Nat.lt_of_mul_lt_mul_right (a := 2 ^ k)
    calc
      2 * n * 2 ^ d * 2 ^ k = 2 * (n * (2 ^ d * 2 ^ k)) := by ring
      _ < 2 * (1000 * (mantissa * 2 ^ k)) + 2 ^ d * 2 ^ k := by omega
      _ = (2 * (1000 * mantissa) + 2 ^ d) * 2 ^ k := by ring
  · apply Nat.lt_of_mul_lt_mul_right (a := 2 ^ k)
    calc
      2 * (1000 * mantissa) * 2 ^ k = 2 * (1000 * (mantissa * 2 ^ k)) := by ring
      _ < 2 * (n * (2 ^ d * 2 ^ k)) + 2 ^ d * 2 ^ k := by omega
      _ = (2 * n * 2 ^ d + 2 ^ d) * 2 ^ k := by ring

theorem unpack_thousand :
    Float.exactlyRepresentablePowersOfTen[3]!.toModel.unpack =
      .finite .positive (1000 * 2 ^ 43) (-43) (by decide) :=
  rfl

/-- A number of thousandths as a double: the mantissa in units of the last bit is off by less than
three thousand, where a half of one thousandth is more than four thousand. -/
theorem unpack_ofDecimal {n : Nat} (hpos : 0 < n) (hlt : n < 10 ^ 15) :
    ∃ (mantissa k : Nat) (hmantissa : 0 < mantissa),
      (ofDecimal n (-3)).toModel.unpack =
        .finite .positive mantissa (n.log2 - 62 + k) hmantissa ∧
      k ≤ 2 ∧
      n * 2 ^ (62 - n.log2) ≤ 1000 * (mantissa * 2 ^ k) + 3000 ∧
      1000 * (mantissa * 2 ^ k) ≤ n * 2 ^ (62 - n.log2) + 3000 := by
  have hshort : n < 2 ^ 53 := by omega
  have hlog : n.log2 < 50 := (Nat.log2_lt (by omega)).mpr (by omega)
  obtain ⟨hmantissa, hwhole⟩ := unpack_toFloat hpos hshort
  have hquotient : (ofDecimal n (-3)).toModel.unpack =
      (Float.Model.pack (UnpackedFloat.div Format.binary64
        (.finite .positive (n <<< (52 - n.log2)) (n.log2 - 52) hmantissa)
        (.finite .positive (1000 * 2 ^ 43) (-43) (by decide)))).unpack := by
    rw [← hwhole, ← unpack_thousand]
    unfold ofDecimal Float.ofScientific
    rw [dif_pos ⟨hshort, by decide⟩]
    rfl
  have hlogShifted : (n <<< (52 - n.log2)).log2 = 52 := by
    rw [log2_shiftLeft hpos]
    omega
  obtain ⟨quotient, k, hpos, hdiv, hlogQuotient, hk, hlower, hupper⟩ :=
    exists_div_eq (f := -43) hmantissa (show 0 < 1000 * 2 ^ 43 by decide) hlogShifted (by decide)
      (show -1021 ≤ (n.log2 - 52 : Int) - -43 by omega)
  have hscale : n <<< (52 - n.log2) * 2 ^ 53 = n * 2 ^ (62 - n.log2) * 2 ^ 43 := by
    rw [Nat.shiftLeft_eq, show 62 - n.log2 = 52 - n.log2 + 10 by omega, Nat.pow_add]
    ring
  rw [hscale] at hlower hupper
  refine ⟨quotient, k, hpos, ?_, hk, by omega, by omega⟩
  rw [hquotient, hdiv, unpack_pack_normal hpos hlogQuotient (by omega) (by omega)]
  exact finite_congr rfl rfl (by omega)

def thousandthsText (n : Nat) : String :=
  let fraction := toString (n % 1000)
  toString (n / 1000) ++ "." ++ "".pushn '0' (3 - fraction.length) ++ fraction

theorem thousandths_ofDecimal {n : Nat} (hlt : n < 10 ^ 15) :
    thousandths (ofDecimal n (-3)) = thousandthsText n := by
  cases Nat.eq_zero_or_pos n with
  | inl hzero =>
    subst hzero
    decide
  | inr hpos =>
    have hlog : n.log2 < 50 := (Nat.log2_lt (by omega)).mpr (by omega)
    obtain ⟨mantissa, k, hmantissa, hunpack, hk, hlower, hupper⟩ := unpack_ofDecimal hpos hlt
    obtain ⟨d, hd⟩ : ∃ d, 62 - n.log2 = d + k := ⟨62 - n.log2 - k, by omega⟩
    rw [hd] at hlower hupper
    unfold thousandths
    rw [hunpack]
    dsimp only
    rw [show (n.log2 - 62 + k : Int).toNat = 0 by omega,
      show (-(n.log2 - 62 + k : Int)).toNat = d by omega, Nat.shiftLeft_zero, Nat.one_shiftLeft,
      nearestEven_mantissa (by omega) hlower hupper]
    rfl

theorem toList_pushn (s : String) (c : Char) (n : Nat) :
    (s.pushn c n).toList = s.toList ++ List.replicate n c := by
  rw [String.pushn_eq_repeat_push]
  induction n with
  | zero => simp [Nat.repeat]
  | succ n ih => rw [Nat.repeat, String.toList_push, ih, List.append_assoc, List.replicate_succ']

theorem ofDigitChars_ratio {fraction : List Char} (hlength : fraction.length = 3) (whole : Nat) :
    Nat.ofDigitChars 10 (Nat.toDigits 10 whole ++ fraction) 0 =
      1000 * whole + Nat.ofDigitChars 10 fraction 0 := by
  rw [Nat.ofDigitChars_append, Nat.ofDigitChars_ten_toDigits,
    Nat.ofDigitChars_eq_ofDigitChars_zero, hlength]

theorem toList_thousandthsText {fraction : List Char} (hlength : fraction.length = 3)
    (hdigits : ∀ c ∈ fraction, c.isDigit) (whole : Nat) :
    (thousandthsText (1000 * whole + Nat.ofDigitChars 10 fraction 0)).toList =
      Nat.toDigits 10 whole ++ '.' :: fraction := by
  have hlt : Nat.ofDigitChars 10 fraction 0 < 1000 := by
    simpa [hlength] using ofDigitChars_lt hdigits
  have hfilled := replicate_append_toDigits (List.ne_nil_of_length_eq_add_one hlength) hdigits
  rw [hlength] at hfilled
  have hwhole : (1000 * whole + Nat.ofDigitChars 10 fraction 0) / 1000 = whole := by omega
  have hrest : (1000 * whole + Nat.ofDigitChars 10 fraction 0) % 1000 =
      Nat.ofDigitChars 10 fraction 0 := by omega
  unfold thousandthsText
  rw [hwhole, hrest]
  simp [toList_pushn, Nat.toList_repr, ← String.length_toList, hfilled]

/-- Three decimals written without needless zeros in front are printed as they were written. -/
theorem exists_real?_thousandths {whole : Nat} {fraction : List Char} (hwhole : whole < 10 ^ 12)
    (hlength : fraction.length = 3) (hdigits : ∀ c ∈ fraction, c.isDigit) :
    ∃ ratio, real? (Nat.toDigits 10 whole ++ '.' :: fraction) = some ratio ∧
      thousandths ratio = String.ofList (Nat.toDigits 10 whole ++ '.' :: fraction) := by
  have hall : ∀ c ∈ Nat.toDigits 10 whole ++ fraction, c.isDigit := by
    intro c hc
    cases List.mem_append.mp hc with
    | inl hc => exact Nat.isDigit_of_mem_toDigits (by decide) (by decide) hc
    | inr hc => exact hdigits c hc
  have hlt : Nat.ofDigitChars 10 fraction 0 < 1000 := by
    simpa [hlength] using ofDigitChars_lt hdigits
  refine ⟨ofDecimal (1000 * whole + Nat.ofDigitChars 10 fraction 0) (-3), ?_, ?_⟩
  · rw [real?_ratio Nat.toDigits_ne_nil fun c hc => isDecimalDigit_of_isDigit (hall c hc),
      if_pos (List.all_eq_true.mpr hall), ofDigitChars_ratio hlength, hlength]
    rfl
  · rw [thousandths_ofDecimal (by omega), ← toList_thousandthsText hlength hdigits,
      String.ofList_toList]

end ContentionCharts.Number
