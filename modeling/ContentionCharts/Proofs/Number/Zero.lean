import ContentionCharts.Proofs.Number.Fields

/-!
Comparison of a double with zero. Both zeros pass, whatever their sign, and no other bits do; so a
NaN is never taken for zero.
-/
namespace ContentionCharts.Number

open Float.Model Float.Model.UnpackedFloat

def isZero (x : Float) : Bool :=
  x.toBits == 0 || x.toBits == 0x8000000000000000

theorem compare_zero_eq_some_eq_iff {u : UnpackedFloat} :
    u.compare (.zero .positive) = some .eq ↔ ∃ sign, u = .zero sign := by
  cases u with
  | notANumber => exact iff_of_false nofun nofun
  | infinity sign => cases sign <;> exact iff_of_false nofun nofun
  | zero sign => exact iff_of_true rfl ⟨sign, rfl⟩
  | finite sign => cases sign <;> exact iff_of_false nofun nofun

theorem Fields.eq_zero_iff {sign : Sign} {exponent mantissa : Nat} {u : UnpackedFloat}
    (h : Fields sign exponent mantissa u) :
    (∃ sign, u = .zero sign) ↔ exponent = 0 ∧ mantissa = 0 := by
  cases h with
  | infinity => exact iff_of_false nofun (by omega)
  | notANumber hpos => exact iff_of_false nofun (by omega)
  | zero => exact iff_of_true ⟨sign, rfl⟩ ⟨rfl, rfl⟩
  | subnormal hpos => exact iff_of_false nofun (by omega)
  | normal hleast => exact iff_of_false nofun (by omega)

theorem isZero_iff_unpack {x : Float} : isZero x ↔ ∃ sign, x.toModel.unpack = .zero sign := by
  have hbits := x.toBits.toNat_lt
  rw [isZero, Bool.or_eq_true, beq_iff_eq, beq_iff_eq, ← UInt64.toNat_inj, ← UInt64.toNat_inj,
    (fields_unpack_toModel x).eq_zero_iff]
  change x.toBits.toNat = 0 ∨ x.toBits.toNat = 0x8000000000000000 ↔ _
  omega

/-- Both zeros equal zero, and nothing else does; a NaN does not. -/
theorem beq_zero (x : Float) : (x == 0) = isZero x := by
  have hzero : (0 : Float).toModel.unpack = .zero .positive := by rfl
  change (x.toModel.unpack.compare (0 : Float).toModel.unpack == some .eq) = _
  rw [hzero, Bool.eq_iff_iff, beq_iff_eq, compare_zero_eq_some_eq_iff, isZero_iff_unpack]

end ContentionCharts.Number
