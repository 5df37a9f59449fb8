import Mathlib.Algebra.Group.Nat.Defs

/-!
The bits of a double as three fields: its sign, its exponent and its mantissa. The last two are one
number, which packing puts together and unpacking takes apart.
-/
namespace ContentionCharts.Number

open Float.Model Float.Model.UnpackedFloat

theorem toNat_unpackSign (bits : BitVec Format.binary64.numBits) :
    (unpackSign bits).toNat = bits.toNat / 2 ^ 63 := by
  have hbits : bits.toNat < 2 ^ 64 := bits.isLt
  unfold unpackSign
  rw [BitVec.toNat_cast, BitVec.extractLsb_toNat, Nat.shiftRight_eq_div_pow]
  change bits.toNat / 2 ^ 63 % 2 ^ 1 = _
  omega

theorem toNat_unpackExponent (bits : BitVec Format.binary64.numBits) :
    (unpackExponent bits).toNat = bits.toNat / 2 ^ 52 % 2 ^ 11 := by
  unfold unpackExponent
  rw [BitVec.toNat_cast, BitVec.extractLsb_toNat, Nat.shiftRight_eq_div_pow]
  rfl

theorem toNat_unpackMantissa (bits : BitVec Format.binary64.numBits) :
    (unpackMantissa bits).toNat = bits.toNat % 2 ^ 52 := by
  unfold unpackMantissa
  rw [BitVec.toNat_cast, BitVec.extractLsb_toNat, Nat.shiftRight_zero]
  rfl

theorem toNat_packComponents (sign : Sign) (exponent : BitVec 11) (mantissa : BitVec 52) :
    (packComponents Format.binary64 sign exponent mantissa).toNat =
      sign.toBitVec.toNat * 2 ^ 63 + exponent.toNat * 2 ^ 52 + mantissa.toNat := by
  have hsign : (sign.toBitVec ++ exponent).toNat =
      sign.toBitVec.toNat * 2 ^ 11 + exponent.toNat := by
    rw [BitVec.toNat_append, ← Nat.shiftLeft_add_eq_or_of_lt exponent.isLt, Nat.shiftLeft_eq]
  unfold packComponents
  rw [BitVec.toNat_append, hsign, ← Nat.shiftLeft_add_eq_or_of_lt mantissa.isLt, Nat.shiftLeft_eq]
  omega

theorem sign_ofBitVec_unpackSign (bits : BitVec Format.binary64.numBits) :
    Sign.ofBitVec (unpackSign bits) = if bits.toNat < 2 ^ 63 then .positive else .negative := by
  have hsign := toNat_unpackSign bits
  have hbits : bits.toNat < 2 ^ 64 := bits.isLt
  unfold Sign.ofBitVec
  by_cases h : bits.toNat < 2 ^ 63
  · have hzero : unpackSign bits = 0#1 :=
      BitVec.eq_of_toNat_eq (hsign.trans (Nat.div_eq_of_lt h))
    rw [if_pos h, if_pos hzero]
  · rw [if_neg h, if_neg]
    intro hzero
    rw [hzero, BitVec.toNat_ofNat] at hsign
    omega

theorem finite_congr {sign second : Sign} {mantissa other : Nat} {exponent another : Int}
    {hpos : 0 < mantissa} {hother : 0 < other} (hsign : sign = second)
    (hmantissa : mantissa = other) (hexponent : exponent = another) :
    UnpackedFloat.finite sign mantissa exponent hpos = .finite second other another hother := by
  subst hsign hmantissa hexponent
  rfl

theorem unpack_of_normal {bits : BitVec Format.binary64.numBits}
    (hfinite : unpackExponent bits ≠ -1#_) (hnormal : unpackExponent bits ≠ 0#_) :
    ∃ hpos, UnpackedFloat.unpack Format.binary64 bits =
      .finite (Sign.ofBitVec (unpackSign bits)) (1#1 ++ unpackMantissa bits).toNat
        ((unpackExponent bits).toNat - (1023 + 52)) hpos := by
  have hpos : 0 < (1#1 ++ unpackMantissa bits).toNat := by
    rw [BitVec.toNat_append]
    exact Nat.lt_of_lt_of_le (by decide) Nat.left_le_or
  refine ⟨hpos, ?_⟩
  unfold UnpackedFloat.unpack
  rw [if_neg hfinite, if_neg hnormal]
  rfl

/-- What the fields of a double stand for. A normal number has a leading one that is not stored. -/
inductive Fields (sign : Sign) : (exponent mantissa : Nat) → UnpackedFloat → Prop where
  | infinity : Fields sign 2047 0 (.infinity sign)
  | notANumber {mantissa : Nat} (hpos : 0 < mantissa) : Fields sign 2047 mantissa .notANumber
  | zero : Fields sign 0 0 (.zero sign)
  | subnormal {mantissa : Nat} (hpos : 0 < mantissa) :
      Fields sign 0 mantissa (.finite sign mantissa (-1074) hpos)
  | normal {exponent mantissa : Nat} (hleast : 0 < exponent) (hlargest : exponent < 2047)
      (hpos : 0 < 2 ^ 52 + mantissa) :
      Fields sign exponent mantissa (.finite sign (2 ^ 52 + mantissa) (exponent - 1075) hpos)

theorem fields_unpack (bits : BitVec Format.binary64.numBits) :
    Fields (Sign.ofBitVec (unpackSign bits)) (bits.toNat / 2 ^ 52 % 2 ^ 11) (bits.toNat % 2 ^ 52)
      (UnpackedFloat.unpack Format.binary64 bits) := by
  have hlargest : (-1#11).toNat = 2047 := by decide
  rw [← toNat_unpackExponent, ← toNat_unpackMantissa]
  by_cases hinfinite : unpackExponent bits = -1#_
  · unfold UnpackedFloat.unpack
    rw [if_pos hinfinite, hinfinite, hlargest]
    by_cases hzero : unpackMantissa bits = 0#_
    · rw [if_pos hzero, hzero]
      exact .infinity
    · rw [if_neg hzero]
      exact .notANumber (Nat.pos_of_ne_zero fun h => hzero (BitVec.eq_of_toNat_eq h))
  · by_cases hleast : unpackExponent bits = 0#_
    · unfold UnpackedFloat.unpack
      rw [if_neg hinfinite, if_pos hleast, hleast]
      by_cases hzero : unpackMantissa bits = 0#_
      · rw [dif_pos hzero, hzero]
        exact .zero
      · rw [dif_neg hzero]
        exact .subnormal _
    · obtain ⟨hpos, hunpack⟩ := unpack_of_normal hinfinite hleast
      have hmantissa : (1#1 ++ unpackMantissa bits).toNat =
          2 ^ 52 + (unpackMantissa bits).toNat := by
        rw [BitVec.toNat_append, ← Nat.shiftLeft_add_eq_or_of_lt (BitVec.isLt _)]
        rfl
      have hexponent : (unpackExponent bits).toNat < 2048 := (unpackExponent bits).isLt
      rw [hunpack, finite_congr rfl hmantissa rfl]
      refine .normal ?_ ?_ (Nat.add_pos_left (by decide) _)
      · exact Nat.pos_of_ne_zero fun h => hleast (BitVec.eq_of_toNat_eq h)
      · have hne : (unpackExponent bits).toNat ≠ 2047 := fun h =>
          hinfinite (BitVec.eq_of_toNat_eq (h.trans hlargest.symm))
        omega

theorem fields_unpack_toModel (x : Float) :
    Fields (if x.toBits.toNat < 2 ^ 63 then .positive else .negative)
      (x.toBits.toNat / 2 ^ 52 % 2 ^ 11) (x.toBits.toNat % 2 ^ 52) x.toModel.unpack := by
  have hfields := fields_unpack x.toBits.toBitVec
  rw [sign_ofBitVec_unpackSign] at hfields
  exact hfields

end ContentionCharts.Number
