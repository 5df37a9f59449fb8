import ContentionCharts.Proofs.Number.Normal
import ContentionCharts.Proofs.Number.Zero

/-!
A double divided by itself. The mantissas cancel, whatever their length, and the exponents too, so
that the quotient is exactly one for every finite double but the zeros; infinities and NaN give NaN.
-/
namespace ContentionCharts.Number

open Float.Model Float.Model.UnpackedFloat

theorem divCore_self {mantissa : Nat} (hpos : 0 < mantissa) (exponent : Int) :
    divCore Format.binary64 mantissa exponent mantissa exponent = (2 ^ 53, -53, .exact) := by
  have htarget : Format.binary64.targetExponent
      (totalExponent mantissa exponent - totalExponent mantissa exponent) = -53 := by
    rw [Int.sub_self]
    rfl
  have hquotient : mantissa <<< 53 / mantissa = 2 ^ 53 := by
    rw [Nat.shiftLeft_eq, Nat.mul_div_cancel_left _ hpos]
  have hrest : mantissa <<< 53 % mantissa = 0 := by
    rw [Nat.shiftLeft_eq, Nat.mul_mod_right]
  unfold divCore
  rw [htarget, Int.sub_self]
  change (mantissa <<< 53 / mantissa, -53,
    accuracyOfFraction (mantissa <<< 53 % mantissa) mantissa) = _
  rw [hquotient, hrest]
  rfl

/-- A finite double is one over itself, whatever its sign; an infinity or a NaN is not. -/
theorem div_self_of_ne_zero {u : UnpackedFloat} (h : ∀ sign, u ≠ .zero sign) :
    UnpackedFloat.div Format.binary64 u u =
      if u.isFinite then .finite .positive (2 ^ 52) (-52) (by decide) else .notANumber := by
  cases u with
  | notANumber => rfl
  | infinity sign => rfl
  | zero sign => exact absurd rfl (h sign)
  | finite sign mantissa exponent positive =>
    have hsign : sign / sign = .positive := by cases sign <;> rfl
    unfold UnpackedFloat.div
    dsimp only
    rw [divCore_self positive, hsign]
    rfl

theorem div_self_eq {x : Float} (h : isZero x = false) :
    x / x = if x.isFinite then 1 else notANumber := by
  have hunpacked : ∀ sign, x.toModel.unpack ≠ .zero sign := by
    intro sign hsign
    rw [isZero_iff_unpack.mpr ⟨sign, hsign⟩] at h
    contradiction
  change Float.ofModel (Float.Model.pack (UnpackedFloat.div Format.binary64 _ _)) = _
  rw [div_self_of_ne_zero hunpacked]
  change _ = if x.toModel.unpack.isFinite then _ else _
  cases x.toModel.unpack.isFinite <;> rfl

theorem div_self_eq_one_iff {x : Float} (h : isZero x = false) : x / x = 1 ↔ x.isFinite := by
  rw [div_self_eq h]
  cases x.isFinite <;> decide

end ContentionCharts.Number
