import ContentionCharts.Number.Real
import ContentionCharts.Proofs.Number.Fields

/-!
Doubles without a sign. A number written without a minus sign is rounded to a zero, a finite double
or an infinity whose sign bit is clear, however large or small it is, and never to NaN.
-/
namespace ContentionCharts.Number

open Float.Model Float.Model.UnpackedFloat

def Unsigned : UnpackedFloat → Prop
  | .infinity sign | .zero sign | .finite sign _ _ _ => sign = .positive
  | .notANumber => False

def isPositive : UnpackedFloat → Bool
  | .finite .positive _ _ _ => true
  | _ => false

theorem eq_finite_of_isPositive {u : UnpackedFloat} (h : isPositive u) :
    ∃ mantissa exponent positive, u = .finite .positive mantissa exponent positive := by
  cases u with
  | infinity => exact Bool.noConfusion h
  | notANumber => exact Bool.noConfusion h
  | zero => exact Bool.noConfusion h
  | finite sign mantissa exponent positive =>
    cases sign with
    | negative => exact Bool.noConfusion h
    | positive => exact ⟨mantissa, exponent, positive, rfl⟩

theorem pack_of_unsigned {u : UnpackedFloat} (h : Unsigned u) :
    ∃ exponent mantissa, UnpackedFloat.pack Format.binary64 u =
        packComponents Format.binary64 .positive exponent mantissa ∧
      (exponent = -1#_ → mantissa = 0#_) := by
  cases u with
  | infinity sign =>
    subst h
    exact ⟨-1#_, 0#_, rfl, fun _ => rfl⟩
  | notANumber => contradiction
  | zero sign =>
    subst h
    exact ⟨0#_, 0#_, rfl, fun h => absurd h (by decide)⟩
  | finite sign mantissa exponent positive =>
    subst h
    unfold UnpackedFloat.pack
    dsimp only
    split
    · exact ⟨-1#_, 0#_, rfl, fun _ => rfl⟩
    · rename_i hsmall
      split
      · refine ⟨_, _, rfl, fun h => ?_⟩
        have hlargest := congrArg BitVec.toNat h
        rw [BitVec.toNat_ofNat, Nat.mod_eq_of_lt (by omega)] at hlargest
        have htop : (-1#11).toNat = 2047 := by decide
        omega
      · exact ⟨0#_, _, rfl, fun h => absurd h (by decide)⟩

theorem unpackSign_packComponents {spec : Format} {sign : Sign}
    {exponent : BitVec spec.exponentBits}
    {mantissa : BitVec spec.mantissaBitsWithoutImplicit} :
    unpackSign (packComponents spec sign exponent mantissa) = sign.toBitVec := by
  ext i hi
  have hzero : i = 0 := by omega
  subst hzero
  delta unpackSign packComponents
  simp [BitVec.getLsbD_append, BitVec.getElem_append]

theorem unsigned_unpack {bits : BitVec Format.binary64.numBits}
    (hsign : unpackSign bits = Sign.positive.toBitVec)
    (hinfinite : unpackExponent bits = -1#_ → unpackMantissa bits = 0#_) :
    Unsigned (UnpackedFloat.unpack Format.binary64 bits) := by
  have hpositive : Sign.ofBitVec (unpackSign bits) = .positive := by
    rw [hsign]
    rfl
  unfold UnpackedFloat.unpack
  by_cases hlargest : unpackExponent bits = -1#_
  · rw [if_pos hlargest, if_pos (hinfinite hlargest)]
    exact hpositive
  · rw [if_neg hlargest]
    by_cases hsmallest : unpackExponent bits = 0#_
    · rw [if_pos hsmallest]
      by_cases hzero : unpackMantissa bits = 0#_
      · rw [dif_pos hzero]
        exact hpositive
      · rw [dif_neg hzero]
        exact hpositive
    · rw [if_neg hsmallest]
      exact hpositive

theorem toNat_packComponents_lt (exponent : BitVec 11) (mantissa : BitVec 52) :
    (packComponents Format.binary64 .positive exponent mantissa).toNat < 0x8000000000000000 := by
  have hexponent := exponent.isLt
  have hmantissa := mantissa.isLt
  have hsign : Sign.positive.toBitVec.toNat = 0 := rfl
  rw [toNat_packComponents, hsign]
  omega

/-- Neither NaN nor marked negative, as zeros can be too. -/
structure IsUnsigned (x : Float) : Prop where
  not_nan : x.isNaN = false
  sign_clear : x.toBits.toNat < 0x8000000000000000

theorem unsigned_unpack_pack {u : UnpackedFloat} (h : Unsigned u) :
    Unsigned (Float.Model.pack u).unpack := by
  have ⟨exponent, mantissa, hpack, hinfinite⟩ := pack_of_unsigned h
  change Unsigned (UnpackedFloat.unpack Format.binary64 (UnpackedFloat.pack Format.binary64 u))
  rw [hpack]
  apply unsigned_unpack unpackSign_packComponents
  rw [unpackExponent_packComponents, unpackMantissa_packComponents]
  exact hinfinite

theorem isUnsigned_ofModel_pack {u : UnpackedFloat} (h : Unsigned u) :
    IsUnsigned (Float.ofModel (Float.Model.pack u)) where
  not_nan := by
    have hunpacked := unsigned_unpack_pack h
    unfold Float.isNaN Float.Model.isNaN
    dsimp only
    cases hu : (Float.Model.pack u).unpack with
    | notANumber =>
      rw [hu] at hunpacked
      contradiction
    | infinity => rfl
    | zero => rfl
    | finite => rfl
  sign_clear := by
    have ⟨exponent, mantissa, hpack, _⟩ := pack_of_unsigned h
    change (UnpackedFloat.pack Format.binary64 u).toNat < 0x8000000000000000
    rw [hpack]
    exact toNat_packComponents_lt exponent mantissa

theorem unsigned_dite {p : Prop} [Decidable p] {u : p → UnpackedFloat} {v : ¬p → UnpackedFloat}
    (hu : ∀ h, Unsigned (u h)) (hv : ∀ h, Unsigned (v h)) :
    Unsigned (if h : p then u h else v h) := by
  by_cases h : p
  · rw [dif_pos h]
    exact hu h
  · rw [dif_neg h]
    exact hv h

theorem unsigned_roundWithAccuracy (mantissa : Nat) (exponent : Int) (accuracy : Accuracy) :
    Unsigned (roundWithAccuracy Format.binary64 .positive mantissa exponent accuracy) := by
  unfold roundWithAccuracy
  apply unsigned_dite
  · intro _
    rfl
  · intro _
    rfl

theorem unsigned_mul {u v : UnpackedFloat} (hu : Unsigned u) (hv : isPositive v) :
    Unsigned (UnpackedFloat.mul Format.binary64 u v) := by
  have ⟨mantissa, exponent, positive, hfinite⟩ := eq_finite_of_isPositive hv
  subst hfinite
  cases u with
  | notANumber => contradiction
  | infinity sign => subst hu; rfl
  | zero sign => subst hu; rfl
  | finite sign => subst hu; exact unsigned_roundWithAccuracy _ _ _

theorem unsigned_div {u v : UnpackedFloat} (hu : Unsigned u) (hv : isPositive v) :
    Unsigned (UnpackedFloat.div Format.binary64 u v) := by
  have ⟨mantissa, exponent, positive, hfinite⟩ := eq_finite_of_isPositive hv
  subst hfinite
  cases u with
  | notANumber => contradiction
  | infinity sign => subst hu; rfl
  | zero sign => subst hu; rfl
  | finite sign => subst hu; exact unsigned_roundWithAccuracy _ _ _

theorem unsigned_normalize {mantissa : Int} (h : 0 ≤ mantissa) (exponent : Int) :
    Unsigned (UnpackedFloat.normalize Format.binary64 mantissa exponent .positive) := by
  unfold UnpackedFloat.normalize
  split
  · rename_i hlt
    rw [Int.compare_eq_lt] at hlt
    omega
  · rfl
  · exact unsigned_roundWithAccuracy _ _ _

theorem unsigned_ofUInt64 (n : UInt64) :
    Unsigned (UnpackedFloat.ofUInt64 Format.binary64 n) :=
  unsigned_normalize (Int.natCast_nonneg _) 0

end ContentionCharts.Number
