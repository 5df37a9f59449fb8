import ContentionCharts.Proofs.Number.Rounding

/-!
Arithmetic that keeps to one side. Doubles without a sign do not shrink when another one is added to
them or when they are multiplied by a factor above one, and do not grow when one is subtracted or
when they are divided by such a factor; rounding never carries a result past the operand.
-/
namespace ContentionCharts.Number

open Float.Model Float.Model.UnpackedFloat

inductive UnsignedForm : UnpackedFloat → Prop where
  | infinity : UnsignedForm (.infinity .positive)
  | zero : UnsignedForm (.zero .positive)
  | finite {mantissa : Nat} {exponent : Int} (hpos : 0 < mantissa)
      (hcanonical : Canonical mantissa exponent) (hexponent : exponent ≤ 971) :
      UnsignedForm (.finite .positive mantissa exponent hpos)

inductive FactorForm : UnpackedFloat → Prop where
  | intro {mantissa : Nat} (hpos : 0 < mantissa) (hlower : 2 ^ 52 < mantissa)
      (hupper : mantissa < 2 ^ 53) : FactorForm (.finite .positive mantissa (-52) hpos)

theorem atMost_of_place_le {m n : Nat} {e f : Int} (hm : Canonical m e) (hn : Canonical n f)
    (h : place m e ≤ place n f) : AtMost m e n f := by
  obtain ⟨hmlt, hele, hmnormal⟩ := hm
  obtain ⟨hnlt, hfle, hnnormal⟩ := hn
  unfold place at h
  rcases Int.lt_trichotomy e f with hlt | rfl | hgt
  · obtain ⟨k, rfl⟩ : ∃ k : Nat, f = e + (k + 1 : Nat) := ⟨(f - e - 1).toNat, by omega⟩
    have hscaled : n * 2 ≤ n * 2 ^ (k + 1) := by
      rw [Nat.pow_succ]
      exact Nat.mul_le_mul_left n (Nat.le_mul_of_pos_left 2 (Nat.two_pow_pos k))
    rw [atMost_iff_le_shift (k + 1) rfl]
    omega
  · rw [atMost_iff_le_shift 0 (Int.add_zero e).symm]
    omega
  · omega

theorem le_keptExponent {mantissa : Nat} {exponent : Int}
    (h : 2 ^ 52 ≤ mantissa ∨ exponent ≤ -1074) : exponent ≤ keptExponent mantissa exponent := by
  unfold keptExponent
  rcases h with hlong | hleast
  · have hlog : 52 ≤ mantissa.log2 := (Nat.le_log2 (by omega)).mpr hlong
    omega
  · omega

theorem RoundsTo.zero (exponent : Int) : RoundsTo 0 exponent 0 where
  nonneg := Int.le_refl 0
  le_infinite := by decide
  place_le := by
    intro m e hcanonical _ hvalue
    unfold AtMost at hvalue
    have hzero : m = 0 := by
      have hproduct : m * 2 ^ (e - exponent).toNat = 0 := by omega
      exact (Nat.mul_eq_zero.mp hproduct).resolve_right (Nat.ne_of_gt (Nat.two_pow_pos _))
    have hleast := hcanonical.normal_or_least
    unfold place
    omega
  le_place := by
    intro m e hcanonical _
    have hleast := hcanonical.le_exponent
    unfold place
    omega

theorem exists_roundsTo_normalize (mantissa exponent : Int) :
    ∃ rank, RoundsTo mantissa.natAbs exponent rank ∧
      packedRank (UnpackedFloat.normalize Format.binary64 mantissa exponent .positive) =
        mantissa.sign * rank := by
  unfold UnpackedFloat.normalize
  rcases Int.lt_trichotomy mantissa 0 with hneg | rfl | hpos
  · rw [Int.compare_eq_lt.mpr hneg, Int.sign_eq_neg_one_of_neg hneg,
      show mantissa.natAbs = (-mantissa).toNat by omega]
    obtain ⟨rank, hrank, hpacked⟩ :=
      exists_roundsTo_round .negative (show 0 < (-mantissa).toNat by omega) exponent
    refine ⟨rank, hrank, hpacked.trans ?_⟩
    rw [Sign.apply]
    omega
  · exact ⟨0, .zero exponent, packedRank_zero .positive⟩
  · rw [Int.compare_eq_gt.mpr hpos, Int.sign_eq_one_of_pos hpos,
      show mantissa.natAbs = mantissa.toNat by omega]
    obtain ⟨rank, hrank, hpacked⟩ :=
      exists_roundsTo_round .positive (show 0 < mantissa.toNat by omega) exponent
    exact ⟨rank, hrank, hpacked.trans (Int.one_mul rank).symm⟩

section

variable {m n : Nat} {e f : Int} (hm : 0 < m) (hn : 0 < n)

/-- A mantissa for the smaller one of two exponents. -/
def scaled (m : Nat) (e f : Int) : Nat := m * 2 ^ (e - min e f).toNat

theorem add_finite :
    UnpackedFloat.add Format.binary64 (.finite .positive m e hm) (.finite .positive n f hn) =
      UnpackedFloat.normalize Format.binary64 (scaled m e f + scaled n f e : Nat) (min e f)
        .positive := by
  unfold UnpackedFloat.add decreaseExponent scaled
  dsimp only
  rw [Nat.shiftLeft_eq, Nat.shiftLeft_eq, Int.min_comm f e, Int.natCast_add]
  rfl

theorem sub_finite :
    UnpackedFloat.sub Format.binary64 (.finite .positive m e hm) (.finite .positive n f hn) =
      UnpackedFloat.normalize Format.binary64 (scaled m e f - scaled n f e) (min e f)
        .positive := by
  unfold UnpackedFloat.sub decreaseExponent scaled
  dsimp only
  rw [Nat.shiftLeft_eq, Nat.shiftLeft_eq, Int.min_comm f e]
  rfl

theorem atMost_scaled (k : Nat) : AtMost m e k (min e f) ↔ scaled m e f ≤ k :=
  atMost_iff_shift_le _ (by omega)

theorem scaled_le_scaled_iff : scaled m e f ≤ scaled n f e ↔ AtMost m e n f := by
  rw [atMost_iff (Int.min_le_left e f) (Int.min_le_right e f)]
  unfold scaled
  rw [Int.min_comm f e]

end

section

variable {u v : UnpackedFloat}

theorem Fields.unsignedForm {exponent mantissa : Nat} (h : Fields .positive exponent mantissa u)
    (hmantissa : mantissa < 2 ^ 52) (hnumber : u.isNaN = false) : UnsignedForm u := by
  have hunpacked := h.isUnpacked hmantissa
  cases h with
  | infinity => exact .infinity
  | notANumber => contradiction
  | zero => exact .zero
  | subnormal hpos =>
    cases hunpacked with
    | finite _ _ hcanonical hexponent => exact .finite hpos hcanonical hexponent
  | normal _ _ hpos =>
    cases hunpacked with
    | finite _ _ hcanonical hexponent => exact .finite hpos hcanonical hexponent

theorem UnsignedForm.unsigned (h : UnsignedForm u) : Unsigned u := by
  cases h <;> rfl

theorem FactorForm.isPositive (h : FactorForm u) : isPositive u := by
  cases h
  rfl

theorem UnsignedForm.unpackedRank_nonneg (h : UnsignedForm u) : 0 ≤ unpackedRank u := by
  cases h with
  | infinity => decide
  | zero => decide
  | finite hpos hcanonical hexponent =>
    exact Int.le_of_lt ((hcanonical.unpackedRank_bounds hexponent _ hpos).2.2 rfl)

theorem UnsignedForm.unpackedRank_le (h : UnsignedForm u) : unpackedRank u ≤ infiniteRank := by
  cases h with
  | infinity => decide
  | zero => decide
  | finite hpos hcanonical hexponent =>
    exact Int.le_of_lt (hcanonical.unpackedRank_bounds hexponent .positive hpos).1.2

theorem UnsignedForm.packedRank_eq (h : UnsignedForm u) : packedRank u = unpackedRank u := by
  cases h with
  | infinity => exact packedRank_infinity .positive
  | zero => exact packedRank_zero .positive
  | finite hpos hcanonical hexponent =>
    have hbounds := (hcanonical.unpackedRank_bounds hexponent .positive hpos).1
    exact (rank_ofModel_pack .positive hpos hcanonical).trans
      (Int.min_eq_left (Int.le_of_lt hbounds.2))

theorem unsigned_add (hu : UnsignedForm u) (hv : UnsignedForm v) :
    Unsigned (UnpackedFloat.add Format.binary64 u v) := by
  cases hu with
  | infinity => cases hv <;> rfl
  | zero => cases hv <;> rfl
  | finite hpos hcanonical hexponent =>
    cases hv with
    | infinity => rfl
    | zero => rfl
    | finite hposOther =>
      rw [add_finite hpos hposOther]
      exact unsigned_normalize (Int.natCast_nonneg _) _

theorem unpackedRank_le_add (hu : UnsignedForm u) (hv : UnsignedForm v) :
    unpackedRank u ≤ packedRank (UnpackedFloat.add Format.binary64 u v) := by
  cases hu with
  | infinity =>
    have hinfinity : packedRank (.infinity .positive) = infiniteRank := packedRank_infinity _
    cases hv <;> exact Int.le_of_eq hinfinity.symm
  | zero =>
    cases hv with
    | infinity => decide
    | zero => decide
    | finite hpos hcanonical hexponent =>
      have hform := UnsignedForm.finite hpos hcanonical hexponent
      exact hform.packedRank_eq ▸ hform.unpackedRank_nonneg
  | @finite m e hpos hcanonical hexponent =>
    have hform := UnsignedForm.finite hpos hcanonical hexponent
    cases hv with
    | infinity => exact (packedRank_infinity .positive).symm ▸ hform.unpackedRank_le
    | zero => exact Int.le_of_eq hform.packedRank_eq.symm
    | @finite n f hposOther =>
      rw [add_finite hpos hposOther]
      obtain ⟨rank, hrank, hpacked⟩ :=
        exists_roundsTo_normalize (scaled m e f + scaled n f e : Nat) (min e f)
      have hsum : 0 < scaled m e f + scaled n f e :=
        Nat.add_pos_left (Nat.mul_pos hpos (Nat.two_pow_pos _)) _
      rw [hpacked, Int.sign_eq_one_of_pos (by omega), Int.one_mul]
      apply hrank.place_le hcanonical hexponent
      rw [Int.natAbs_natCast, atMost_scaled]
      exact Nat.le_add_right _ _

theorem sub_finite_bounds {m n : Nat} {e f : Int} (hpos : 0 < m) (hposOther : 0 < n)
    (hcanonical : Canonical m e) :
    let difference := packedRank (UnpackedFloat.sub Format.binary64 (.finite .positive m e hpos)
      (.finite .positive n f hposOther))
    difference ≤ place m e ∧ -infiniteRank ≤ difference := by
  obtain ⟨rank, hrank, hpacked⟩ :=
    exists_roundsTo_normalize (scaled m e f - scaled n f e) (min e f)
  have hnonneg := hrank.nonneg
  have hinfinite := hrank.le_infinite
  have hplace : 0 ≤ place m e := by
    have hleast := hcanonical.le_exponent
    unfold place
    omega
  rw [sub_finite hpos hposOther, hpacked]
  rcases Int.lt_trichotomy (scaled m e f - scaled n f e : Int) 0 with hneg | hzero | hless
  · rw [Int.sign_eq_neg_one_of_neg hneg]
    omega
  · rw [hzero, Int.sign_zero]
    omega
  · have hpositive : 0 < scaled n f e := Nat.mul_pos hposOther (Nat.two_pow_pos _)
    have hle : rank ≤ place m e := by
      apply hrank.le_place hcanonical
      rw [atMost_scaled]
      omega
    rw [Int.sign_eq_one_of_pos hless]
    omega

theorem sub_bounds (hu : UnsignedForm u) (hv : UnsignedForm v) (hne : u ≠ .infinity .positive) :
    -infiniteRank ≤ packedRank (UnpackedFloat.sub Format.binary64 u v) ∧
      packedRank (UnpackedFloat.sub Format.binary64 u v) ≤ unpackedRank u := by
  cases hu with
  | infinity => contradiction
  | zero =>
    cases hv with
    | infinity => decide
    | zero => decide
    | @finite n f hpos hcanonical hexponent =>
      have hplace := (hcanonical.unpackedRank_bounds hexponent .positive hpos).2.2 rfl
      have hpacked : packedRank (.finite .negative n f hpos) = -min (place n f) infiniteRank :=
        rank_ofModel_pack .negative hpos hcanonical
      change _ ≤ packedRank (.finite .negative n f hpos) ∧
        packedRank (.finite .negative n f hpos) ≤ 0
      change 0 < place n f at hplace
      rw [hpacked]
      unfold infiniteRank
      omega
  | @finite m e hpos hcanonical hexponent =>
    have hform := UnsignedForm.finite hpos hcanonical hexponent
    have hnonneg := hform.unpackedRank_nonneg
    cases hv with
    | infinity =>
      have hpacked : packedRank (.infinity .negative) = -infiniteRank := packedRank_infinity _
      change _ ≤ packedRank (.infinity .negative) ∧ packedRank (.infinity .negative) ≤ _
      rw [hpacked]
      unfold infiniteRank
      omega
    | zero =>
      change _ ≤ packedRank (.finite .positive m e hpos) ∧
        packedRank (.finite .positive m e hpos) ≤ _
      rw [hform.packedRank_eq]
      unfold infiniteRank
      omega
    | finite hposOther => exact (sub_finite_bounds hpos hposOther hcanonical).symm

theorem unsigned_sub (hu : UnsignedForm u) (hv : UnsignedForm v)
    (hne : u ≠ .infinity .positive) (hle : unpackedRank v ≤ unpackedRank u) :
    Unsigned (UnpackedFloat.sub Format.binary64 u v) := by
  cases hu with
  | infinity => contradiction
  | zero =>
    cases hv with
    | infinity => exact absurd hle (by decide)
    | zero => rfl
    | finite hpos hcanonical hexponent =>
      have hplace := (hcanonical.unpackedRank_bounds hexponent .positive hpos).2.2 rfl
      exact absurd hle (Int.not_le.mpr hplace)
  | @finite m e hpos hcanonical hexponent =>
    cases hv with
    | infinity =>
      have hfinite := (hcanonical.unpackedRank_bounds hexponent .positive hpos).1.2
      exact absurd hle (Int.not_le.mpr hfinite)
    | zero => rfl
    | @finite n f hposOther hcanonicalOther =>
      have hscaled := scaled_le_scaled_iff.mpr (atMost_of_place_le hcanonicalOther hcanonical hle)
      rw [sub_finite hpos hposOther]
      exact unsigned_normalize (by omega) _

theorem unpackedRank_le_mul (hu : UnsignedForm u) (hv : FactorForm v) :
    unpackedRank u ≤ packedRank (UnpackedFloat.mul Format.binary64 u v) := by
  cases hv with
  | @intro factor hpositive hlower hupper =>
    cases hu with
    | infinity => exact Int.le_of_eq (packedRank_infinity .positive).symm
    | zero => exact Int.le_of_eq (packedRank_zero .positive).symm
    | @finite m e hpos hcanonical hexponent =>
      have hlong : 2 ^ 52 ≤ m * factor ∨ e + -52 ≤ -1074 :=
        .inl (Nat.le_trans (Nat.le_of_lt hlower) (Nat.le_mul_of_pos_left factor hpos))
      obtain ⟨rank, hrank, hpacked⟩ :=
        exists_roundsTo .positive .exact (le_keptExponent hlong)
      refine Int.le_trans ?_ (Int.le_of_eq hpacked.symm)
      apply hrank.place_le hcanonical hexponent
      rw [atMost_iff_shift_le 52 (by omega)]
      exact Nat.mul_le_mul_left m (Nat.le_of_lt hlower)

theorem exists_divCore_eq {m factor : Nat} {e : Int} (hpos : 0 < m) (hcanonical : Canonical m e)
    (hlower : 2 ^ 52 < factor) (hupper : factor < 2 ^ 53) :
    ∃ (quotient k : Nat) (accuracy : Accuracy),
      divCore Format.binary64 m e factor (-52) = (quotient, e - k, accuracy) ∧
      -1074 ≤ e - k ∧ (2 ^ 52 ≤ quotient ∨ e - k = -1074) ∧
      quotient = m * 2 ^ (k + 52) / factor := by
  obtain ⟨hmlt, hleast, hnormal⟩ := hcanonical
  have hlogFactor : factor.log2 = 52 := log2_eq_of_le_of_lt (Nat.le_of_lt hlower) hupper
  have hlog : m.log2 ≤ 52 := Nat.le_of_lt_succ ((Nat.log2_lt (by omega)).mpr hmlt)
  have htarget :
      Format.binary64.targetExponent (totalExponent m e - totalExponent factor (-52)) =
        max (m.log2 + e - 53) (-1074) := by
    rw [targetExponent_binary64, totalExponent, totalExponent, hlogFactor]
    omega
  obtain ⟨k, hk⟩ : ∃ k : Nat, max (m.log2 + e - 53) (-1074) = e - k :=
    ⟨(e - max (m.log2 + e - 53) (-1074)).toNat, by omega⟩
  refine ⟨m * 2 ^ (k + 52) / factor, k, accuracyOfFraction (m * 2 ^ (k + 52) % factor) factor,
    ?_, by omega, ?_, rfl⟩
  · unfold divCore
    dsimp only
    rw [htarget, hk, Int.min_eq_right (by omega),
      show (e - -52 - (e - k)).toNat = k + 52 by omega, Nat.shiftLeft_eq]
  · by_cases hend : e - k = -1074
    · exact .inr hend
    · left
      rw [Nat.le_div_iff_mul_le (by omega)]
      calc 2 ^ 52 * factor
          ≤ 2 ^ 52 * 2 ^ 53 := Nat.mul_le_mul_left _ (Nat.le_of_lt hupper)
        _ = 2 ^ m.log2 * 2 ^ (k + 52) := by
            rw [← Nat.pow_add, ← Nat.pow_add]
            congr 1
            omega
        _ ≤ m * 2 ^ (k + 52) := Nat.mul_le_mul_right _ (le_of_log2_eq hpos rfl)

theorem exists_roundsTo_div {m factor : Nat} {e : Int} (hpos : 0 < m) (hpositive : 0 < factor)
    (hcanonical : Canonical m e) (hlower : 2 ^ 52 < factor) (hupper : factor < 2 ^ 53) :
    ∃ (k : Nat) (rank : Int), -1074 ≤ e - k ∧
      RoundsTo (m * 2 ^ (k + 52) / factor) (e - k) rank ∧
      packedRank (UnpackedFloat.div Format.binary64 (.finite .positive m e hpos)
        (.finite .positive factor (-52) hpositive)) = rank := by
  obtain ⟨quotient, k, accuracy, hcore, hleast, hlong, hquotient⟩ :=
    exists_divCore_eq hpos hcanonical hlower hupper
  obtain ⟨rank, hrank, hpacked⟩ := exists_roundsTo .positive accuracy
    (le_keptExponent (show 2 ^ 52 ≤ quotient ∨ e - k ≤ -1074 by omega))
  refine ⟨k, rank, hleast, hquotient ▸ hrank, ?_⟩
  refine Eq.trans ?_ hpacked
  unfold UnpackedFloat.div
  dsimp only
  rw [hcore]
  rfl

theorem div_bounds (hu : UnsignedForm u) (hv : FactorForm v) :
    packedRank (UnpackedFloat.div Format.binary64 u v) ≤ unpackedRank u ∧
      (1 < unpackedRank u → 0 < packedRank (UnpackedFloat.div Format.binary64 u v)) := by
  cases hv with
  | @intro factor hpositive hlower hupper =>
    cases hu with
    | infinity =>
      have hpacked : packedRank (.infinity .positive) = infiniteRank := packedRank_infinity _
      have hpositive : (0 : Int) < infiniteRank := by decide
      exact ⟨Int.le_of_eq hpacked, fun _ => hpositive.trans_eq hpacked.symm⟩
    | zero => exact ⟨Int.le_of_eq (packedRank_zero .positive), nofun⟩
    | @finite m e hpos hcanonical hexponent =>
      obtain ⟨k, rank, hleast, hrank, hdiv⟩ :=
        exists_roundsTo_div hpos hpositive hcanonical hlower hupper
      rw [hdiv]
      constructor
      · apply hrank.le_place hcanonical
        rw [atMost_iff_shift_le k (by omega), Nat.not_le, Nat.div_lt_iff_lt_mul (by omega),
          Nat.pow_add, ← Nat.mul_assoc]
        exact Nat.mul_lt_mul_of_pos_left hlower (Nat.mul_pos hpos (Nat.two_pow_pos k))
      · intro hmore
        have htwo : 2 ≤ m := by
          have hplace : 1 < place m e := hmore
          have hnormal := hcanonical.normal_or_least
          unfold place at hplace
          omega
        have hquotient : 1 ≤ m * 2 ^ (k + 52) / factor := by
          rw [Nat.le_div_iff_mul_le (by omega), Nat.one_mul]
          have hshift : m * 2 ^ 52 ≤ m * 2 ^ (k + 52) :=
            Nat.mul_le_mul_left m (Nat.pow_le_pow_right (by decide) (by omega))
          omega
        have hsmallest : Canonical 1 (-1074) := ⟨by decide, by decide, .inr rfl⟩
        refine hrank.place_le hsmallest (by decide) ?_
        rw [atMost_iff_le_shift (e - k + 1074).toNat (by omega)]
        exact Nat.mul_pos hquotient (Nat.two_pow_pos _)

end

/-! Doubles. -/

section

variable {x y c : Float}

theorem IsUnsigned.form (h : IsUnsigned x) : UnsignedForm x.toModel.unpack := by
  have hfields := fields_unpack_toModel x
  rw [if_pos (show x.toBits.toNat < 2 ^ 63 from h.sign_clear)] at hfields
  exact hfields.unsignedForm (Nat.mod_lt _ (Nat.two_pow_pos 52)) h.not_nan

theorem IsUnsigned.rank_nonneg (h : IsUnsigned x) : 0 ≤ rank x := by
  rw [h.rank_eq]
  exact Int.natCast_nonneg _

theorem isUnsigned_of_rank_pos (hpos : 0 < rank x) (hle : rank x ≤ infiniteRank) :
    IsUnsigned x where
  not_nan := isNaN_eq_false_iff.mpr ⟨by unfold infiniteRank; omega, hle⟩
  sign_clear := by
    have hbits : x.toBits.toNat < 2 ^ 64 := x.toBits.toNat_lt
    unfold rank at hpos
    split at hpos
    · assumption
    · omega

theorem not_isNaN_of_compare {u v : UnpackedFloat} {order : Ordering}
    (h : u.compare v = some order) : u.isNaN = false ∧ v.isNaN = false := by
  constructor
  · cases u with
    | notANumber => contradiction
    | infinity => rfl
    | zero => rfl
    | finite => rfl
  · cases v with
    | notANumber => cases u <;> contradiction
    | infinity => rfl
    | zero => rfl
    | finite => rfl

theorem le_iff : x ≤ y ↔ x.isNaN = false ∧ y.isNaN = false ∧ rank x ≤ rank y := by
  constructor
  · intro h
    have hle : decide ((x.toModel.unpack.compare y.toModel.unpack).any (·.isLE) = true) = true := h
    rw [decide_eq_true_iff, Option.any_eq_true] at hle
    obtain ⟨order, horder, _⟩ := hle
    obtain ⟨hx, hy⟩ := not_isNaN_of_compare horder
    exact ⟨hx, hy, (le_iff_rank hx hy).mp h⟩
  · intro ⟨hx, hy, hrank⟩
    exact (le_iff_rank hx hy).mpr hrank

theorem le_trans {z : Float} (hxy : x ≤ y) (hyz : y ≤ z) : x ≤ z := by
  rw [le_iff] at hxy hyz ⊢
  exact ⟨hxy.1, hyz.2.1, Int.le_trans hxy.2.2 hyz.2.2⟩

theorem isUnsigned_add (hx : IsUnsigned x) (hy : IsUnsigned y) : IsUnsigned (x + y) :=
  isUnsigned_ofModel_pack (unsigned_add hx.form hy.form)

theorem le_add (hx : IsUnsigned x) (hy : IsUnsigned y) : x ≤ x + y := by
  rw [le_iff_rank hx.not_nan (isUnsigned_add hx hy).not_nan, rank_eq hx.not_nan]
  exact unpackedRank_le_add hx.form hy.form

theorem ne_infinity_of_rank_lt (hx : x.isNaN = false) (h : rank x < infiniteRank) :
    x.toModel.unpack ≠ .infinity .positive := by
  intro hinfinity
  rw [rank_eq hx, hinfinity] at h
  exact absurd h (by decide)

theorem sub_le (hx : IsUnsigned x) (hfinite : rank x < infiniteRank) (hy : IsUnsigned y) :
    x - y ≤ x := by
  obtain ⟨hlower, hupper⟩ := sub_bounds hx.form hy.form (ne_infinity_of_rank_lt hx.not_nan hfinite)
  rw [← rank_eq hx.not_nan] at hupper
  have hnumber : (x - y).isNaN = false :=
    isNaN_eq_false_iff.mpr ⟨hlower, Int.le_trans hupper (Int.le_of_lt hfinite)⟩
  exact (le_iff_rank hnumber hx.not_nan).mpr hupper

theorem isUnsigned_sub (hx : IsUnsigned x) (hfinite : rank x < infiniteRank) (hy : IsUnsigned y)
    (hle : y ≤ x) : IsUnsigned (x - y) := by
  rw [le_iff_rank hy.not_nan hx.not_nan, rank_eq hy.not_nan, rank_eq hx.not_nan] at hle
  exact isUnsigned_ofModel_pack
    (unsigned_sub hx.form hy.form (ne_infinity_of_rank_lt hx.not_nan hfinite) hle)

theorem isUnsigned_mul (hx : IsUnsigned x) (hc : isPositive c.toModel.unpack) :
    IsUnsigned (x * c) :=
  isUnsigned_ofModel_pack (unsigned_mul hx.form.unsigned hc)

theorem le_mul (hx : IsUnsigned x) (hc : FactorForm c.toModel.unpack) : x ≤ x * c := by
  rw [le_iff_rank hx.not_nan (isUnsigned_mul hx hc.isPositive).not_nan, rank_eq hx.not_nan]
  exact unpackedRank_le_mul hx.form hc

theorem isUnsigned_div (hx : IsUnsigned x) (hc : isPositive c.toModel.unpack) :
    IsUnsigned (x / c) :=
  isUnsigned_ofModel_pack (unsigned_div hx.form.unsigned hc)

theorem div_le (hx : IsUnsigned x) (hc : FactorForm c.toModel.unpack) : x / c ≤ x := by
  rw [le_iff_rank (isUnsigned_div hx hc.isPositive).not_nan hx.not_nan, rank_eq hx.not_nan]
  exact (div_bounds hx.form hc).1

theorem rank_div_pos (hx : IsUnsigned x) (hc : FactorForm c.toModel.unpack) (h : 1 < rank x) :
    0 < rank (x / c) := by
  rw [rank_eq hx.not_nan] at h
  exact (div_bounds hx.form hc).2 h

end

theorem rank_one : rank 1 = 1023 * 2 ^ 52 := by decide

theorem rank_ofUInt64 (n : UInt64) :
    rank n.toFloat = packedRank (UnpackedFloat.normalize Format.binary64 n.toNat 0 .positive) :=
  rfl

theorem isUnsigned_toFloat (n : UInt64) : IsUnsigned n.toFloat :=
  isUnsigned_ofModel_pack (unsigned_ofUInt64 n)

theorem rank_toFloat_bounds (n : UInt64) :
    rank n.toFloat < infiniteRank ∧ (0 < n → rank 1 ≤ rank n.toFloat) := by
  obtain ⟨rank, hrank, hpacked⟩ := exists_roundsTo_normalize n.toNat 0
  have hlt : n.toNat < 2 ^ 64 := n.toNat_lt
  rw [Int.natAbs_natCast] at hrank
  have hle : rank ≤ place (2 ^ 52) 12 := by
    have hpower : Canonical (2 ^ 52) 12 := ⟨by decide, by decide, .inl (Nat.le_refl _)⟩
    apply hrank.le_place hpower
    change ¬2 ^ 52 * 2 ^ 12 ≤ n.toNat * 2 ^ 0
    omega
  have hfinite : place (2 ^ 52) 12 < infiniteRank := by decide
  rw [rank_ofUInt64, hpacked]
  constructor
  · rcases Nat.eq_zero_or_pos n.toNat with hzero | hpos
    · rw [hzero, Int.natCast_zero, Int.sign_zero, Int.zero_mul]
      decide
    · rw [Int.sign_eq_one_of_pos (by omega), Int.one_mul]
      omega
  · intro hpos
    have hone : Canonical (2 ^ 52) (-52) := ⟨by decide, by decide, .inl (Nat.le_refl _)⟩
    have hnat : 0 < n.toNat := hpos
    rw [Int.sign_eq_one_of_pos (by omega), Int.one_mul, rank_one]
    refine hrank.place_le hone (by decide) ?_
    change 2 ^ 52 * 2 ^ 0 ≤ n.toNat * 2 ^ 52
    omega

end ContentionCharts.Number
