import ContentionCharts.Proofs.Number.Normal
import ContentionCharts.Proofs.Number.Zero

/-!
The order of doubles. The bits of a number without its sign count the numbers between it and zero;
with the sign as a minus they are its rank, and numbers compare as their ranks do. NaN lies beyond
the infinities and compares with nothing.
-/
namespace ContentionCharts.Number

open Float.Model Float.Model.UnpackedFloat

/-- Both zeros have rank zero. -/
def rank (x : Float) : Int :=
  if x.toBits.toNat < 2 ^ 63 then x.toBits.toNat else 2 ^ 63 - x.toBits.toNat

def infiniteRank : Int := 2047 * 2 ^ 52

def place (mantissa : Nat) (exponent : Int) : Int :=
  (exponent + 1074) * 2 ^ 52 + mantissa

def unpackedRank : UnpackedFloat → Int
  | .infinity sign => sign.apply infiniteRank
  | .notANumber => 0
  | .zero _ => 0
  | .finite sign mantissa exponent _ => sign.apply (place mantissa exponent)

/-- A mantissa of fifty-three bits, or a shorter one with the least exponent. -/
structure Canonical (mantissa : Nat) (exponent : Int) : Prop where
  mantissa_lt : mantissa < 2 ^ 53
  le_exponent : -1074 ≤ exponent
  normal_or_least : 2 ^ 52 ≤ mantissa ∨ exponent = -1074

inductive IsUnpacked : UnpackedFloat → Prop where
  | infinity (sign : Sign) : IsUnpacked (.infinity sign)
  | notANumber : IsUnpacked .notANumber
  | zero (sign : Sign) : IsUnpacked (.zero sign)
  | finite (sign : Sign) {mantissa : Nat} {exponent : Int} (hpos : 0 < mantissa)
      (hcanonical : Canonical mantissa exponent) (hexponent : exponent ≤ 971) :
      IsUnpacked (.finite sign mantissa exponent hpos)

section

variable {sign : Sign} {exponent mantissa : Nat} {u : UnpackedFloat}

theorem Fields.isUnpacked (h : Fields sign exponent mantissa u) (hmantissa : mantissa < 2 ^ 52) :
    IsUnpacked u := by
  cases h with
  | infinity => exact .infinity sign
  | notANumber => exact .notANumber
  | zero => exact .zero sign
  | subnormal hpos => exact .finite sign hpos ⟨by omega, by omega, .inr rfl⟩ (by omega)
  | normal => exact .finite sign _ ⟨by omega, by omega, .inl (by omega)⟩ (by omega)

theorem Fields.unpackedRank_eq (h : Fields sign exponent mantissa u) (hnumber : u.isNaN = false) :
    unpackedRank u = sign.apply (exponent * 2 ^ 52 + mantissa) := by
  cases h with
  | infinity => rfl
  | notANumber => contradiction
  | zero => cases sign <;> rfl
  | subnormal => rfl
  | normal =>
    -- The leading one stands for the step from one exponent to the next.
    unfold unpackedRank place
    dsimp only
    congr 1
    omega

end

theorem isUnpacked_unpack (x : Float) : IsUnpacked x.toModel.unpack :=
  (fields_unpack_toModel x).isUnpacked (Nat.mod_lt _ (Nat.two_pow_pos 52))

theorem rank_eq {x : Float} (h : x.isNaN = false) : rank x = unpackedRank x.toModel.unpack := by
  have hbits : x.toBits.toNat < 2 ^ 64 := x.toBits.toNat_lt
  rw [(fields_unpack_toModel x).unpackedRank_eq h, rank]
  by_cases hpositive : x.toBits.toNat < 2 ^ 63
  · rw [if_pos hpositive, if_pos hpositive, Sign.apply]
    omega
  · rw [if_neg hpositive, if_neg hpositive, Sign.apply]
    omega

/-! The comparison of unpacked numbers, class by class. -/

/-- Exponents are compared first, then mantissas: of two exponents the larger one is not the least,
so that its mantissa is a long one. -/
theorem Canonical.compare_eq {m n : Nat} {e f : Int} (hm : Canonical m e) (hn : Canonical n f) :
    (compare e f).then (compare m n) = compare (place m e) (place n f) := by
  obtain ⟨hmlt, hele, hmnormal⟩ := hm
  obtain ⟨hnlt, hfle, hnnormal⟩ := hn
  unfold place
  rcases Int.lt_trichotomy e f with hlt | rfl | hgt
  · rw [Int.compare_eq_lt.mpr hlt, Int.compare_eq_lt.mpr (by omega)]
    rfl
  · rw [Int.compare_eq_eq.mpr rfl]
    rcases Nat.lt_trichotomy m n with hlt | rfl | hgt
    · rw [Nat.compare_eq_lt.mpr hlt, Int.compare_eq_lt.mpr (by omega)]
      rfl
    · rw [Nat.compare_eq_eq.mpr rfl, Int.compare_eq_eq.mpr rfl]
      rfl
    · rw [Nat.compare_eq_gt.mpr hgt, Int.compare_eq_gt.mpr (by omega)]
      rfl
  · rw [Int.compare_eq_gt.mpr hgt, Int.compare_eq_gt.mpr (by omega)]
    rfl

theorem compare_neg_neg (a b : Int) : compare (-a) (-b) = compare b a := by
  rcases Int.lt_trichotomy a b with hlt | rfl | hgt
  · rw [Int.compare_eq_gt.mpr (by omega), Int.compare_eq_gt.mpr hlt]
  · rw [Int.compare_eq_eq.mpr rfl, Int.compare_eq_eq.mpr rfl]
  · rw [Int.compare_eq_lt.mpr (by omega), Int.compare_eq_lt.mpr hgt]

theorem Canonical.unpackedRank_bounds {mantissa : Nat} {exponent : Int}
    (h : Canonical mantissa exponent) (hexponent : exponent ≤ 971) (sign : Sign)
    (hpos : 0 < mantissa) :
    let u := UnpackedFloat.finite sign mantissa exponent hpos
    (-infiniteRank < unpackedRank u ∧ unpackedRank u < infiniteRank) ∧
      (sign = .negative → unpackedRank u < 0) ∧ (sign = .positive → 0 < unpackedRank u) := by
  obtain ⟨hlt, hleast, _⟩ := h
  unfold unpackedRank Sign.apply place infiniteRank
  cases sign with
  | negative =>
    dsimp only
    exact ⟨by omega, fun _ => by omega, nofun⟩
  | positive =>
    dsimp only
    exact ⟨by omega, nofun, fun _ => by omega⟩

section

variable {u v : UnpackedFloat}

theorem compare_of_lt (h : u.compare v = some .lt) (hrank : unpackedRank u < unpackedRank v) :
    u.compare v = some (compare (unpackedRank u) (unpackedRank v)) := by
  rw [h, Int.compare_eq_lt.mpr hrank]

theorem compare_of_gt (h : u.compare v = some .gt) (hrank : unpackedRank v < unpackedRank u) :
    u.compare v = some (compare (unpackedRank u) (unpackedRank v)) := by
  rw [h, Int.compare_eq_gt.mpr hrank]

theorem compare_unpacked (hu : IsUnpacked u) (hv : IsUnpacked v) (hnumber : u.isNaN = false)
    (hother : v.isNaN = false) :
    u.compare v = some (compare (unpackedRank u) (unpackedRank v)) := by
  cases hu with
  | notANumber => contradiction
  | infinity sign =>
    cases hv with
    | notANumber => contradiction
    | infinity other => cases sign <;> cases other <;> rfl
    | zero other => cases sign <;> rfl
    | finite other hpos hcanonical hexponent =>
      have hbetween := (hcanonical.unpackedRank_bounds hexponent other hpos).1
      cases sign with
      | negative => exact compare_of_lt rfl hbetween.1
      | positive => exact compare_of_gt rfl hbetween.2
  | zero sign =>
    cases hv with
    | notANumber => contradiction
    | infinity other => cases other <;> rfl
    | zero other => rfl
    | finite other hpos hcanonical hexponent =>
      obtain ⟨_, hnegative, hpositive⟩ := hcanonical.unpackedRank_bounds hexponent other hpos
      cases other with
      | negative => exact compare_of_gt rfl (hnegative rfl)
      | positive => exact compare_of_lt rfl (hpositive rfl)
  | finite sign hpos hcanonical hexponent =>
    obtain ⟨hbetween, hnegative, hpositive⟩ :=
      hcanonical.unpackedRank_bounds hexponent sign hpos
    cases hv with
    | notANumber => contradiction
    | infinity other =>
      cases other with
      | negative => exact compare_of_gt (by cases sign <;> rfl) hbetween.1
      | positive => exact compare_of_lt (by cases sign <;> rfl) hbetween.2
    | zero other =>
      cases sign with
      | negative => exact compare_of_lt rfl (hnegative rfl)
      | positive => exact compare_of_gt rfl (hpositive rfl)
    | finite other hposOther hcanonicalOther hexponentOther =>
      obtain ⟨_, hnegativeOther, hpositiveOther⟩ :=
        hcanonicalOther.unpackedRank_bounds hexponentOther other hposOther
      have hcompare := hcanonical.compare_eq hcanonicalOther
      cases sign with
      | negative =>
        cases other with
        | negative =>
          refine congrArg some ?_
          rw [hcompare, Int.compare_swap]
          exact (compare_neg_neg _ _).symm
        | positive =>
          exact compare_of_lt rfl (Int.lt_trans (hnegative rfl) (hpositiveOther rfl))
      | positive =>
        cases other with
        | negative =>
          exact compare_of_gt rfl (Int.lt_trans (hnegativeOther rfl) (hpositive rfl))
        | positive => exact congrArg some hcompare

end

/-! The order itself. -/

section

variable {x y : Float}

theorem compare_eq (hx : x.isNaN = false) (hy : y.isNaN = false) :
    x.toModel.unpack.compare y.toModel.unpack = some (compare (rank x) (rank y)) := by
  rw [rank_eq hx, rank_eq hy]
  exact compare_unpacked (isUnpacked_unpack x) (isUnpacked_unpack y) hx hy

theorem le_iff_rank (hx : x.isNaN = false) (hy : y.isNaN = false) : x ≤ y ↔ rank x ≤ rank y := by
  change decide ((x.toModel.unpack.compare y.toModel.unpack).any (·.isLE) = true) = true ↔ _
  rw [decide_eq_true_iff, compare_eq hx hy, Option.any_some, Int.isLE_compare]

theorem lt_iff_rank (hx : x.isNaN = false) (hy : y.isNaN = false) : x < y ↔ rank x < rank y := by
  change decide ((x.toModel.unpack.compare y.toModel.unpack == some .lt) = true) = true ↔ _
  rw [decide_eq_true_iff, compare_eq hx hy, beq_iff_eq, Option.some.injEq, Int.compare_eq_lt]

theorem rank_min (hx : x.isNaN = false) (hy : y.isNaN = false) :
    rank (min x y) = min (rank x) (rank y) := by
  change rank (if x ≤ y then x else y) = _
  by_cases h : x ≤ y
  · rw [if_pos h, Int.min_eq_left ((le_iff_rank hx hy).mp h)]
  · rw [if_neg h, Int.min_eq_right]
    rw [le_iff_rank hx hy] at h
    omega

theorem rank_max (hx : x.isNaN = false) (hy : y.isNaN = false) :
    rank (max x y) = max (rank x) (rank y) := by
  change rank (if x ≤ y then y else x) = _
  by_cases h : x ≤ y
  · rw [if_pos h, Int.max_eq_right ((le_iff_rank hx hy).mp h)]
  · rw [if_neg h, Int.max_eq_left]
    rw [le_iff_rank hx hy] at h
    omega

theorem eq_of_toBits_eq (h : x.toBits = y.toBits) : x = y := by
  cases x with
  | ofModel model =>
    cases y with
    | ofModel other =>
      cases model
      cases other
      cases h
      rfl

theorem eq_of_rank_eq (h : rank x = rank y) (hne : rank x ≠ 0) : x = y := by
  apply eq_of_toBits_eq
  have hx := x.toBits.toNat_lt
  have hy := y.toBits.toNat_lt
  rw [← UInt64.toNat_inj]
  unfold rank at h hne
  split at h <;> split at h <;> omega

theorem IsUnsigned.rank_eq (h : IsUnsigned x) : rank x = x.toBits.toNat :=
  if_pos h.sign_clear

theorem IsUnsigned.eq_of_rank_eq (hx : IsUnsigned x) (hy : IsUnsigned y) (h : rank x = rank y) :
    x = y := by
  rw [hx.rank_eq, hy.rank_eq, Int.ofNat_inj] at h
  exact eq_of_toBits_eq (UInt64.toNat_inj.mp h)

theorem isNaN_eq_false_iff : x.isNaN = false ↔ -infiniteRank ≤ rank x ∧ rank x ≤ infiniteRank := by
  have hfields := fields_unpack_toModel x
  have hbits : x.toBits.toNat < 2 ^ 64 := x.toBits.toNat_lt
  change x.toModel.unpack.isNaN = false ↔ _
  unfold rank infiniteRank
  generalize x.toModel.unpack = u at hfields
  generalize hexponent : x.toBits.toNat / 2 ^ 52 % 2 ^ 11 = exponent at hfields
  generalize hmantissa : x.toBits.toNat % 2 ^ 52 = mantissa at hfields
  cases hfields with
  | notANumber => exact iff_of_false nofun (by split <;> omega)
  | infinity => exact iff_of_true rfl (by split <;> omega)
  | zero => exact iff_of_true rfl (by split <;> omega)
  | subnormal => exact iff_of_true rfl (by split <;> omega)
  | normal => exact iff_of_true rfl (by split <;> omega)

end

theorem toNat_toBits_pack (sign : Sign) {mantissa : Nat} {exponent : Int} (hpos : 0 < mantissa)
    (h : Canonical mantissa exponent) :
    (Float.ofModel (Float.Model.pack (.finite sign mantissa exponent hpos))).toBits.toNat =
      sign.toBitVec.toNat * 2 ^ 63 + (min (place mantissa exponent) infiniteRank).toNat := by
  obtain ⟨hlt, hleast, hnormal⟩ := h
  change (if 2 ^ 11 ≤ (exponent + 1023 + 52).toNat + 1 then
      packComponents Format.binary64 sign (-1#11) 0#52
    else if mantissa.log2 + 1 = 53 then packComponents Format.binary64 sign
      (BitVec.ofNat 11 (exponent + 1023 + 52).toNat) (BitVec.ofNat 52 mantissa)
    else packComponents Format.binary64 sign (BitVec.ofNat 11 0)
      (BitVec.ofNat 52 mantissa)).toNat = _
  unfold place infiniteRank
  by_cases hlarge : 2 ^ 11 ≤ (exponent + 1023 + 52).toNat + 1
  · have hexponent : (-1#11).toNat = 2047 := by decide
    rw [if_pos hlarge, toNat_packComponents, hexponent, BitVec.toNat_ofNat]
    omega
  · rw [if_neg hlarge]
    by_cases hlog : mantissa.log2 + 1 = 53
    · have hlong := le_of_log2_eq hpos (show mantissa.log2 = 52 by omega)
      rw [if_pos hlog, toNat_packComponents, BitVec.toNat_ofNat, BitVec.toNat_ofNat]
      omega
    · have hshort : mantissa < 2 ^ 52 := by
        apply Nat.lt_of_not_le
        intro hlong
        exact hlog (congrArg (· + 1) (log2_eq_of_le_of_lt hlong hlt))
      rw [if_neg hlog, toNat_packComponents, BitVec.toNat_ofNat, BitVec.toNat_ofNat]
      omega

/-- Packing keeps the rank; what is too large becomes an infinity. -/
theorem rank_ofModel_pack (sign : Sign) {mantissa : Nat} {exponent : Int} (hpos : 0 < mantissa)
    (h : Canonical mantissa exponent) :
    rank (Float.ofModel (Float.Model.pack (.finite sign mantissa exponent hpos))) =
      sign.apply (min (place mantissa exponent) infiniteRank) := by
  have hleast := h.le_exponent
  unfold rank
  rw [toNat_toBits_pack sign hpos h]
  unfold place infiniteRank
  cases sign with
  | negative =>
    have hsign : Sign.negative.toBitVec.toNat = 1 := rfl
    rw [hsign, if_neg (by omega), Sign.apply]
    omega
  | positive =>
    have hsign : Sign.positive.toBitVec.toNat = 0 := rfl
    rw [hsign, if_pos (by omega), Sign.apply]
    omega

end ContentionCharts.Number
