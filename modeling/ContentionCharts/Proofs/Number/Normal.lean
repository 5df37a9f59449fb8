import ContentionCharts.Proofs.Number.Unsigned
import Mathlib.Tactic.Ring

/-!
Normal doubles, whose mantissa has its fifty-three bits. Rounding brings a longer mantissa to that
length and is off by less than one unit of the last bit that is kept; packing loses nothing then.
-/
namespace ContentionCharts.Number

open Float.Model Float.Model.UnpackedFloat

theorem log2_eq_of_le_of_lt {n k : Nat} (hle : 2 ^ k ≤ n) (hlt : n < 2 ^ (k + 1)) :
    n.log2 = k := by
  have hpos : n ≠ 0 := by
    have := Nat.two_pow_pos k
    omega
  have hlower := (Nat.le_log2 hpos).mpr hle
  have hupper := (Nat.log2_lt hpos).mpr hlt
  omega

theorem le_of_log2_eq {n k : Nat} (hn : 0 < n) (h : n.log2 = k) : 2 ^ k ≤ n :=
  (Nat.le_log2 (by omega)).mp (by omega)

theorem lt_of_log2_eq {n k : Nat} (hn : 0 < n) (h : n.log2 = k) : n < 2 ^ (k + 1) :=
  (Nat.log2_lt (by omega)).mp (by omega)

theorem log2_shiftLeft {n : Nat} (hn : 0 < n) (k : Nat) : (n <<< k).log2 = n.log2 + k := by
  rw [Nat.shiftLeft_eq]
  apply log2_eq_of_le_of_lt
  · rw [Nat.pow_add]
    exact Nat.mul_le_mul_right _ (le_of_log2_eq hn rfl)
  · rw [show n.log2 + k + 1 = n.log2 + 1 + k by omega, Nat.pow_add]
    exact Nat.mul_lt_mul_of_pos_right (lt_of_log2_eq hn rfl) (Nat.two_pow_pos k)

theorem div_two_pow_bounds {m k n : Nat} (hm : 0 < m) (hlog : m.log2 = k + n) :
    2 ^ k ≤ m / 2 ^ n ∧ m / 2 ^ n < 2 ^ (k + 1) := by
  rw [Nat.le_div_iff_mul_le (Nat.two_pow_pos n), Nat.div_lt_iff_lt_mul (Nat.two_pow_pos n),
    ← Nat.pow_add, ← Nat.pow_add, show k + 1 + n = k + n + 1 by omega]
  exact ⟨le_of_log2_eq hm hlog, lt_of_log2_eq hm hlog⟩

/-- A quotient by a power of two, rounded to either side, is off by at most one. -/
theorem mul_two_pow_bounds {m rounded n : Nat} (hlower : m / 2 ^ n ≤ rounded)
    (hupper : rounded ≤ m / 2 ^ n + 1) :
    m ≤ rounded * 2 ^ n + 2 ^ n ∧ rounded * 2 ^ n ≤ m + 2 ^ n := by
  have hfloor := Nat.div_add_mod m (2 ^ n)
  have hrest := Nat.mod_lt m (Nat.two_pow_pos n)
  have hlowerScaled := Nat.mul_le_mul_right (2 ^ n) hlower
  have hupperScaled := Nat.mul_le_mul_right (2 ^ n) hupper
  rw [Nat.add_mul, Nat.one_mul] at hupperScaled
  rw [Nat.mul_comm] at hfloor
  omega

theorem mantissa_shiftRight (extended : ExtendedMantissa) (n : Nat) :
    (extended >>> n).mantissa = extended.mantissa / 2 ^ n := by
  change (n.repeat ExtendedMantissa.shiftRightOne extended).mantissa = _
  induction n with
  | zero => simp [Nat.repeat]
  | succ n ih =>
    rw [Nat.repeat, Nat.pow_succ, ← Nat.div_div_eq_div_mul, ← ih]
    rfl

theorem mantissa_ofMantissaAndAccuracy (mantissa : Nat) (accuracy : Accuracy) :
    (ExtendedMantissa.ofMantissaAndAccuracy mantissa accuracy).mantissa = mantissa := by
  cases accuracy with
  | exact => rfl
  | inexact order => cases order <;> rfl

theorem roundedMantissa_bounds (extended : ExtendedMantissa) :
    extended.mantissa ≤ extended.roundedMantissa ∧
      extended.roundedMantissa ≤ extended.mantissa + 1 := by
  obtain ⟨mantissa, roundBit, stickyBit⟩ := extended
  cases roundBit <;> cases stickyBit <;>
    simp [ExtendedMantissa.roundedMantissa, ExtendedMantissa.accuracy, Accuracy.roundToNearestEven]
  omega

theorem targetExponent_binary64 (total : Int) :
    Format.binary64.targetExponent total = max (total - 53) (-1074) :=
  rfl

/-- Shifting to fifty-three bits, as long as the exponent is not too small for a normal double. -/
theorem shiftToTargetExponent_eq {mantissa n : Nat} {exponent : Int} (accuracy : Accuracy)
    (hlog : mantissa.log2 = 52 + n) (hexponent : -1074 ≤ exponent + n) :
    shiftToTargetExponent Format.binary64 mantissa exponent accuracy =
      (ExtendedMantissa.ofMantissaAndAccuracy mantissa accuracy >>> n, exponent + n) := by
  have htarget : Format.binary64.targetExponent (totalExponent mantissa exponent) =
      exponent + n := by
    rw [targetExponent_binary64, totalExponent, hlog]
    omega
  have hshift : (exponent + n - exponent).toNat = n := by omega
  unfold shiftToTargetExponent shiftToExponent
  dsimp only
  rw [htarget, hshift]

/-- Rounding from its two shifts: to the bits that are kept, and once more if rounding has made the
mantissa too long. -/
theorem roundWithAccuracy_eq {sign : Sign} {mantissa : Nat} {exponent first second : Int}
    {accuracy : Accuracy} {kept final : ExtendedMantissa}
    (hkept : shiftToTargetExponent Format.binary64 mantissa exponent accuracy = (kept, first))
    (hfinal : shiftToTargetExponent Format.binary64 kept.roundedMantissa first .exact =
      (final, second))
    (hpos : 0 < final.mantissa) :
    roundWithAccuracy Format.binary64 sign mantissa exponent accuracy =
      .finite sign final.mantissa second hpos := by
  unfold roundWithAccuracy
  rw [hkept]
  dsimp only
  rw [hfinal]
  exact dif_neg (Nat.ne_of_gt hpos)

theorem roundWithAccuracy_exact (sign : Sign) {mantissa : Nat} {exponent : Int}
    (hpos : 0 < mantissa) (hlog : mantissa.log2 = 52) (hexponent : -1074 ≤ exponent) :
    roundWithAccuracy Format.binary64 sign mantissa exponent .exact =
      .finite sign mantissa exponent hpos := by
  have hshift : shiftToTargetExponent Format.binary64 mantissa exponent .exact =
      (⟨mantissa, false, false⟩, exponent) := by
    rw [shiftToTargetExponent_eq (n := 0) .exact hlog (by simpa using hexponent)]
    exact congrArg _ (Int.add_zero exponent)
  exact roundWithAccuracy_eq hshift hshift hpos

theorem exists_shifted {mantissa : Nat} {exponent : Int} (hle : mantissa ≤ 2 ^ 53)
    (hleast : -1074 ≤ exponent) :
    ∃ kept k : Nat, shiftToTargetExponent Format.binary64 mantissa exponent .exact =
        (⟨kept, false, false⟩, exponent + k) ∧
      (mantissa < 2 ^ 53 ∧ kept = mantissa ∧ k = 0 ∨
        mantissa = 2 ^ 53 ∧ kept = 2 ^ 52 ∧ k = 1) := by
  by_cases hcarry : mantissa = 2 ^ 53
  · subst hcarry
    refine ⟨2 ^ 52, 1, ?_, .inr ⟨rfl, rfl, rfl⟩⟩
    rw [shiftToTargetExponent_eq (n := 1) .exact (by decide) (by omega)]
    rfl
  · have hlog : mantissa.log2 < 53 := by
      by_cases hzero : mantissa = 0
      · rw [hzero]
        decide
      · exact (Nat.log2_lt hzero).mpr (by omega)
    have htarget : Format.binary64.targetExponent (totalExponent mantissa exponent) ≤ exponent := by
      rw [targetExponent_binary64, totalExponent]
      omega
    refine ⟨mantissa, 0, ?_, .inl ⟨by omega, rfl, rfl⟩⟩
    unfold shiftToTargetExponent shiftToExponent
    dsimp only
    rw [Int.toNat_of_nonpos (by omega)]
    rfl

/-- Rounding a longer mantissa: the result has fifty-three bits and differs from what is rounded by
at most one unit of the last bit that is kept. -/
theorem exists_roundWithAccuracy_eq (sign : Sign) {mantissa n : Nat} {exponent : Int}
    (accuracy : Accuracy) (hlog : mantissa.log2 = 52 + n) (hexponent : -1074 ≤ exponent) :
    ∃ (rounded k : Nat) (hpos : 0 < rounded),
      roundWithAccuracy Format.binary64 sign mantissa exponent accuracy =
        .finite sign rounded (exponent + k) hpos ∧
      rounded.log2 = 52 ∧ k ≤ n + 1 ∧
      mantissa ≤ rounded * 2 ^ k + 2 ^ n ∧ rounded * 2 ^ k ≤ mantissa + 2 ^ n := by
  have hpos : 0 < mantissa := by
    apply Nat.pos_of_ne_zero
    intro hzero
    rw [hzero] at hlog
    simp at hlog
    omega
  have hfirst : -1074 ≤ exponent + (n : Int) := by omega
  have hkept := shiftToTargetExponent_eq accuracy hlog hfirst
  generalize hextended : ExtendedMantissa.ofMantissaAndAccuracy mantissa accuracy >>> n = kept
    at hkept
  obtain ⟨hlower, hupper⟩ := roundedMantissa_bounds kept
  have hmantissa : kept.mantissa = mantissa / 2 ^ n := by
    rw [← hextended, mantissa_shiftRight, mantissa_ofMantissaAndAccuracy]
  rw [hmantissa] at hlower hupper
  obtain ⟨hshort, hlong⟩ := div_two_pow_bounds hpos hlog
  generalize hrounded : kept.roundedMantissa = rounded at hlower hupper
  have hscaled := mul_two_pow_bounds hlower hupper
  obtain ⟨final, k, hfinal, hcarry⟩ := exists_shifted (show rounded ≤ 2 ^ 53 by omega) hfirst
  have hvalue : final * 2 ^ (n + k) = rounded * 2 ^ n := by
    rcases hcarry with ⟨_, rfl, rfl⟩ | ⟨rfl, rfl, rfl⟩
    · rfl
    · ring
  have hlogFinal : final.log2 = 52 := by
    rcases hcarry with ⟨hfits, rfl, _⟩ | ⟨_, rfl, _⟩
    · exact log2_eq_of_le_of_lt (by omega) hfits
    · decide
  have hposFinal : 0 < final := by omega
  have hround : roundWithAccuracy Format.binary64 sign mantissa exponent accuracy =
      .finite sign final (exponent + (n + k : Nat)) hposFinal := by
    rw [roundWithAccuracy_eq hkept (hrounded ▸ hfinal) hposFinal]
    exact finite_congr rfl rfl (by omega)
  exact ⟨final, n + k, hposFinal, hround, hlogFinal, by omega, hvalue ▸ hscaled⟩

theorem toNat_one_append {mantissa : Nat} (hpos : 0 < mantissa) (hlog : mantissa.log2 = 52) :
    (1#1 ++ BitVec.ofNat 52 mantissa).toNat = mantissa := by
  have hlower := le_of_log2_eq hpos hlog
  have hupper := lt_of_log2_eq hpos hlog
  rw [BitVec.toNat_append, ← Nat.shiftLeft_add_eq_or_of_lt (BitVec.isLt _), BitVec.toNat_ofNat,
    Nat.shiftLeft_eq]
  change 1 * 2 ^ 52 + mantissa % 2 ^ 52 = mantissa
  omega

theorem unpack_pack_normal {mantissa : Nat} {exponent : Int} (hpos : 0 < mantissa)
    (hlog : mantissa.log2 = 52) (hlower : -1074 ≤ exponent) (hupper : exponent ≤ 971) :
    (Float.Model.pack (.finite .positive mantissa exponent hpos)).unpack =
      .finite .positive mantissa exponent hpos := by
  obtain ⟨biased, hbiased⟩ := Int.eq_ofNat_of_zero_le (a := exponent + 1023 + 52) (by omega)
  have hpack : UnpackedFloat.pack Format.binary64 (.finite .positive mantissa exponent hpos) =
      packComponents Format.binary64 .positive (BitVec.ofNat 11 biased)
        (BitVec.ofNat 52 mantissa) := by
    change (if 2 ^ 11 ≤ (exponent + 1023 + 52).toNat + 1 then _ else
      if mantissa.log2 + 1 = 53 then packComponents Format.binary64 .positive
        (BitVec.ofNat 11 (exponent + 1023 + 52).toNat) (BitVec.ofNat 52 mantissa) else _) = _
    rw [hbiased, Int.toNat_natCast, if_neg (by omega), if_pos (by omega)]
  have htoNat : (BitVec.ofNat 11 biased).toNat = biased := by
    rw [BitVec.toNat_ofNat]
    omega
  have hfinite : BitVec.ofNat 11 biased ≠ -1#11 := by
    intro h
    have htop := congrArg BitVec.toNat h
    rw [htoNat, show (-1#11).toNat = 2047 by decide] at htop
    omega
  have hnormal : BitVec.ofNat 11 biased ≠ 0#11 := by
    intro h
    have hzero := congrArg BitVec.toNat h
    rw [htoNat, show (0#11).toNat = 0 by decide] at hzero
    omega
  change UnpackedFloat.unpack Format.binary64 (UnpackedFloat.pack Format.binary64 _) = _
  rw [hpack]
  generalize hbits : packComponents Format.binary64 .positive (BitVec.ofNat 11 biased)
    (BitVec.ofNat 52 mantissa) = bits
  have hexponent : unpackExponent bits = BitVec.ofNat 11 biased := by
    rw [← hbits, unpackExponent_packComponents]
  obtain ⟨_, hunpack⟩ := unpack_of_normal (hexponent ▸ hfinite) (hexponent ▸ hnormal)
  rw [hunpack]
  apply finite_congr
  · rw [← hbits, unpackSign_packComponents]
    rfl
  · rw [← hbits, unpackMantissa_packComponents]
    exact toNat_one_append hpos hlog
  · rw [hexponent, htoNat]
    omega

theorem unpack_toFloat {n : Nat} (hpos : 0 < n) (hlt : n < 2 ^ 53) :
    ∃ hmantissa, n.toUInt64.toFloat.toModel.unpack =
      .finite .positive (n <<< (52 - n.log2)) (n.log2 - 52) hmantissa := by
  have hlog : n.log2 < 53 := (Nat.log2_lt (by omega)).mpr hlt
  have hmantissa : 0 < n <<< (52 - n.log2) := by
    rw [Nat.shiftLeft_eq]
    exact Nat.mul_pos hpos (Nat.two_pow_pos _)
  have htarget : Format.binary64.targetExponent (totalExponent n 0) = n.log2 - 52 := by
    rw [targetExponent_binary64, totalExponent]
    omega
  have hlogShifted : (n <<< (52 - n.log2)).log2 = 52 := by
    rw [log2_shiftLeft hpos]
    omega
  have hround : UnpackedFloat.round Format.binary64 .positive n 0 =
      .finite .positive (n <<< (52 - n.log2)) (n.log2 - 52) hmantissa := by
    have hdecrease : decreaseExponent n 0 (n.log2 - 52) =
        (n <<< (52 - n.log2), (n.log2 - 52 : Int)) := by
      unfold decreaseExponent
      dsimp only
      rw [show ((0 : Int) - (n.log2 - 52)).toNat = 52 - n.log2 by omega]
      exact Prod.ext rfl (by simp only; omega)
    unfold UnpackedFloat.round
    dsimp only
    rw [htarget, hdecrease]
    exact roundWithAccuracy_exact .positive hmantissa hlogShifted (by omega)
  have hconvert : UnpackedFloat.ofUInt64 Format.binary64 n.toUInt64 =
      .finite .positive (n <<< (52 - n.log2)) (n.log2 - 52) hmantissa := by
    have htoNat : n.toUInt64.toNat = n := Nat.mod_eq_of_lt (by omega)
    unfold UnpackedFloat.ofUInt64 UnpackedFloat.ofNat UnpackedFloat.ofInt UnpackedFloat.normalize
    rw [htoNat, Int.compare_eq_gt.mpr (by omega)]
    exact hround
  refine ⟨hmantissa, ?_⟩
  change (Float.Model.pack (UnpackedFloat.ofUInt64 Format.binary64 n.toUInt64)).unpack = _
  rw [hconvert]
  exact unpack_pack_normal hmantissa hlogShifted (by omega) (by omega)

/-- The quotient of two normal doubles, if it is neither too small nor too large for one: truncation
and rounding together move it by at most three units of the fifty-third bit after the point. -/
theorem exists_div_eq {first second : Nat} {e f : Int} (hfirst : 0 < first) (hsecond : 0 < second)
    (hlogFirst : first.log2 = 52) (hlogSecond : second.log2 = 52) (hexponent : -1021 ≤ e - f) :
    ∃ (quotient k : Nat) (hpos : 0 < quotient),
      UnpackedFloat.div Format.binary64 (.finite .positive first e hfirst)
          (.finite .positive second f hsecond) =
        .finite .positive quotient (e - f - 53 + k) hpos ∧
      quotient.log2 = 52 ∧ k ≤ 2 ∧
      first * 2 ^ 53 ≤ (quotient * 2 ^ k + 3) * second ∧
      quotient * 2 ^ k * second ≤ first * 2 ^ 53 + 3 * second := by
  have hfirstLower := le_of_log2_eq hfirst hlogFirst
  have hfirstUpper := lt_of_log2_eq hfirst hlogFirst
  have hsecondLower := le_of_log2_eq hsecond hlogSecond
  have hsecondUpper := lt_of_log2_eq hsecond hlogSecond
  have htarget : Format.binary64.targetExponent (totalExponent first e - totalExponent second f) =
      e - f - 53 := by
    rw [targetExponent_binary64, totalExponent, totalExponent, hlogFirst, hlogSecond]
    omega
  have hcore : divCore Format.binary64 first e second f =
      (first * 2 ^ 53 / second, e - f - 53,
        accuracyOfFraction (first * 2 ^ 53 % second) second) := by
    unfold divCore
    dsimp only
    rw [htarget, Int.min_eq_right (by omega), show (e - f - (e - f - 53)).toNat = 53 by omega,
      Nat.shiftLeft_eq]
  have hshort : 2 ^ 52 ≤ first * 2 ^ 53 / second := by
    rw [Nat.le_div_iff_mul_le hsecond]
    omega
  have hlong : first * 2 ^ 53 / second < 2 ^ 54 := by
    rw [Nat.div_lt_iff_lt_mul hsecond]
    omega
  have hfloor := Nat.div_add_mod (first * 2 ^ 53) second
  have hrest := Nat.mod_lt (first * 2 ^ 53) hsecond
  obtain ⟨n, hn, hlog⟩ : ∃ n ≤ 1, (first * 2 ^ 53 / second).log2 = 52 + n := by
    by_cases hfits : first * 2 ^ 53 / second < 2 ^ 53
    · exact ⟨0, by omega, log2_eq_of_le_of_lt hshort hfits⟩
    · exact ⟨1, by omega, log2_eq_of_le_of_lt (by omega) hlong⟩
  obtain ⟨quotient, k, hpos, hround, hlogQuotient, hk, hlower, hupper⟩ :=
    exists_roundWithAccuracy_eq .positive (accuracyOfFraction (first * 2 ^ 53 % second) second)
      hlog (show -1074 ≤ e - f - 53 by omega)
  have hunit : 2 ^ n ≤ 2 := by
    have hpow := Nat.pow_le_pow_right (show 0 < 2 by decide) hn
    omega
  refine ⟨quotient, k, hpos, ?_, hlogQuotient, by omega, ?_, ?_⟩
  · unfold UnpackedFloat.div
    dsimp only
    rw [hcore]
    exact hround
  · have hscaled := Nat.mul_le_mul_left second (show first * 2 ^ 53 / second ≤ quotient * 2 ^ k + 2
      by omega)
    rw [Nat.mul_comm (quotient * 2 ^ k + 3)]
    rw [Nat.mul_add] at hscaled ⊢
    omega
  · have hscaled := Nat.mul_le_mul_left second (show quotient * 2 ^ k ≤ first * 2 ^ 53 / second + 2
      by omega)
    rw [Nat.mul_comm (quotient * 2 ^ k)]
    rw [Nat.mul_add] at hscaled
    omega

end ContentionCharts.Number
