import ContentionCharts.Proofs.Number.Order

/-!
Rounding and the order. A number `m * 2 ^ e` goes to one of the two doubles around it, or to the
double that it is: none that is at most the number lies above the result, and none above the number
lies below it. A number beyond the largest double may become an infinity.
-/
namespace ContentionCharts.Number

open Float.Model Float.Model.UnpackedFloat

def keptExponent (mantissa : Nat) (exponent : Int) : Int :=
  max (mantissa.log2 + 1 + exponent - 53) (-1074)

/-- The number `m * 2 ^ e` is at most `n * 2 ^ f`. -/
def AtMost (m : Nat) (e : Int) (n : Nat) (f : Int) : Prop :=
  m * 2 ^ (e - f).toNat ≤ n * 2 ^ (f - e).toNat

theorem atMost_iff {m n : Nat} {e f base : Int} (he : base ≤ e) (hf : base ≤ f) :
    AtMost m e n f ↔ m * 2 ^ (e - base).toNat ≤ n * 2 ^ (f - base).toNat := by
  have hleft : (e - base).toNat = (e - f).toNat + (min e f - base).toNat := by omega
  have hright : (f - base).toNat = (f - e).toNat + (min e f - base).toNat := by omega
  rw [hleft, hright, Nat.pow_add, Nat.pow_add, ← Nat.mul_assoc, ← Nat.mul_assoc]
  exact (Nat.mul_le_mul_right_iff (Nat.two_pow_pos _)).symm

theorem atMost_iff_shift_le {m n : Nat} {e f : Int} (k : Nat) (h : e = f + k) :
    AtMost m e n f ↔ m * 2 ^ k ≤ n := by
  rw [atMost_iff (show f ≤ e by omega) (Int.le_refl f), show (e - f).toNat = k by omega,
    Int.sub_self, Int.toNat_zero, Nat.pow_zero, Nat.mul_one]

theorem atMost_iff_le_shift {m n : Nat} {e f : Int} (k : Nat) (h : f = e + k) :
    AtMost m e n f ↔ m ≤ n * 2 ^ k := by
  rw [atMost_iff (Int.le_refl e) (show e ≤ f by omega), show (f - e).toNat = k by omega,
    Int.sub_self, Int.toNat_zero, Nat.pow_zero, Nat.mul_one]

theorem atMost_shift {m n : Nat} {e f : Int} (k : Nat) :
    AtMost m e (n * 2 ^ k) (f - k) ↔ AtMost m e n f := by
  rw [atMost_iff (Int.min_le_left e (f - k)) (Int.min_le_right e (f - k)),
    atMost_iff (Int.min_le_left e (f - k)) (show min e (f - k) ≤ f by omega), Nat.mul_assoc,
    ← Nat.pow_add, show k + (f - k - min e (f - k)).toNat = (f - min e (f - k)).toNat by omega]

/-- The rank of a double to which `mantissa * 2 ^ exponent` may be rounded: a double that is at most
the number is at most the result, and one above the number is not below the result. -/
structure RoundsTo (mantissa : Nat) (exponent rank : Int) : Prop where
  nonneg : 0 ≤ rank
  le_infinite : rank ≤ infiniteRank
  place_le : ∀ {m : Nat} {e : Int}, Canonical m e → e ≤ 971 → AtMost m e mantissa exponent →
    place m e ≤ rank
  le_place : ∀ {m : Nat} {e : Int}, Canonical m e → ¬AtMost m e mantissa exponent →
    rank ≤ place m e

theorem RoundsTo.of_shift {mantissa k : Nat} {exponent rank : Int}
    (h : RoundsTo (mantissa * 2 ^ k) (exponent - k) rank) : RoundsTo mantissa exponent rank where
  nonneg := h.nonneg
  le_infinite := h.le_infinite
  place_le hcanonical hfinite hvalue := h.place_le hcanonical hfinite ((atMost_shift k).mpr hvalue)
  le_place hcanonical hvalue := h.le_place hcanonical fun hshifted =>
    hvalue ((atMost_shift k).mp hshifted)

theorem keptMantissa_bounds {mantissa : Nat} {exponent : Int} (accuracy : Accuracy)
    (h : exponent ≤ keptExponent mantissa exponent) :
    let n := (keptExponent mantissa exponent - exponent).toNat
    let kept := (ExtendedMantissa.ofMantissaAndAccuracy mantissa accuracy >>> n).roundedMantissa
    (mantissa / 2 ^ n ≤ kept ∧ kept ≤ mantissa / 2 ^ n + 1) ∧
    kept ≤ 2 ^ 53 ∧ (2 ^ 52 ≤ mantissa / 2 ^ n ∨ keptExponent mantissa exponent = -1074) := by
  intro n kept
  have hkept :=
    roundedMantissa_bounds (ExtendedMantissa.ofMantissaAndAccuracy mantissa accuracy >>> n)
  rw [mantissa_shiftRight, mantissa_ofMantissaAndAccuracy] at hkept
  refine ⟨hkept, ?_⟩
  obtain ⟨hlower, hupper⟩ : (mantissa / 2 ^ n ≤ kept ∧ kept ≤ mantissa / 2 ^ n + 1) := hkept
  have hshort : mantissa / 2 ^ n < 2 ^ 53 := by
    rw [Nat.div_lt_iff_lt_mul (Nat.two_pow_pos n), ← Nat.pow_add]
    have hlog : mantissa < 2 ^ (mantissa.log2 + 1) := Nat.lt_log2_self
    have hn : mantissa.log2 + 1 ≤ 53 + n := by
      unfold n keptExponent
      omega
    exact Nat.lt_of_lt_of_le hlog (Nat.pow_le_pow_right (by decide) hn)
  refine ⟨by omega, ?_⟩
  by_cases hleast : keptExponent mantissa exponent = -1074
  · exact .inr hleast
  · have hlog : mantissa.log2 = 52 + n := by
      unfold n
      unfold keptExponent at *
      omega
    have hpos : 0 < mantissa := by
      apply Nat.pos_of_ne_zero
      intro hzero
      rw [hzero, Nat.log2_zero] at hlog
      omega
    exact .inl (div_two_pow_bounds hpos hlog).1

def packedRank (u : UnpackedFloat) : Int :=
  rank (Float.ofModel (Float.Model.pack u))

theorem packedRank_zero (sign : Sign) : packedRank (.zero sign) = 0 := by
  cases sign <;> decide

theorem packedRank_infinity (sign : Sign) :
    packedRank (.infinity sign) = sign.apply infiniteRank := by
  cases sign <;> decide

theorem packedRank_finite (sign : Sign) {mantissa : Nat} {exponent : Int}
    (h : Canonical mantissa exponent) :
    packedRank (if h : mantissa = 0 then .zero sign
      else .finite sign mantissa exponent (Nat.pos_of_ne_zero h)) =
        sign.apply (min (place mantissa exponent) infiniteRank) := by
  by_cases hzero : mantissa = 0
  · have hplace : place mantissa exponent = 0 := by
      have hleast := h.normal_or_least
      unfold place
      omega
    rw [dif_pos hzero, packedRank_zero, hplace]
    cases sign <;> rfl
  · rw [dif_neg hzero]
    exact rank_ofModel_pack sign _ h

theorem exists_canonical {kept : Nat} {exponent : Int} (hle : kept ≤ 2 ^ 53)
    (hleast : -1074 ≤ exponent) (hnormal : 2 ^ 52 ≤ kept ∨ exponent = -1074) :
    ∃ (m : Nat) (e : Int), shiftToTargetExponent Format.binary64 kept exponent .exact =
        (⟨m, false, false⟩, e) ∧ Canonical m e ∧ place m e = place kept exponent := by
  obtain ⟨m, k, hshifted, hcarry⟩ := exists_shifted hle hleast
  refine ⟨m, exponent + k, hshifted, ⟨by omega, by omega, by omega⟩, ?_⟩
  unfold place
  omega

section

variable {m mantissa kept n : Nat} {e exponent : Int}

/-- A double that is at most a number is at most what is kept of it: with a larger exponent its
mantissa would have to be too short. -/
theorem place_le_kept (hcanonical : Canonical m e) (hlower : mantissa / 2 ^ n ≤ kept)
    (hle : kept ≤ 2 ^ 53) (hleast : -1074 ≤ exponent + n)
    (hnormal : 2 ^ 52 ≤ mantissa / 2 ^ n ∨ exponent + n = -1074)
    (hvalue : AtMost m e mantissa exponent) : place m e ≤ place kept (exponent + n) := by
  obtain ⟨hlt, hleastOther, hnormalOther⟩ := hcanonical
  unfold place
  by_cases hbelow : e < exponent + n
  · omega
  · obtain ⟨k, rfl⟩ : ∃ k : Nat, e = exponent + n + k := ⟨(e - (exponent + n)).toNat, by omega⟩
    have hscaled : m * 2 ^ k ≤ kept := by
      refine Nat.le_trans ((Nat.le_div_iff_mul_le (Nat.two_pow_pos n)).mpr ?_) hlower
      rw [Nat.mul_assoc, ← Nat.pow_add]
      exact (atMost_iff_shift_le (k + n) (by omega)).mp hvalue
    match k with
    | 0 => omega
    | 1 => omega
    | k + 2 =>
      have hpower : 2 ^ 2 ≤ 2 ^ (k + 2) := Nat.pow_le_pow_right (by decide) (Nat.le_add_left 2 k)
      have hfour := Nat.mul_le_mul_left m hpower
      omega

/-- A double above a number is not below what is kept of it: it has no smaller exponent. -/
theorem kept_le_place (hcanonical : Canonical m e) (hupper : kept ≤ mantissa / 2 ^ n + 1)
    (hle : kept ≤ 2 ^ 53) (hleast : -1074 ≤ exponent + n)
    (hnormal : 2 ^ 52 ≤ mantissa / 2 ^ n ∨ exponent + n = -1074)
    (hvalue : ¬AtMost m e mantissa exponent) : place kept (exponent + n) ≤ place m e := by
  obtain ⟨hlt, hleastOther, hnormalOther⟩ := hcanonical
  have hunit := Nat.two_pow_pos n
  unfold place
  rcases Int.lt_trichotomy e (exponent + n) with hbelow | rfl | habove
  · have hlong : 2 ^ 52 * 2 ^ n ≤ mantissa := (Nat.le_div_iff_mul_le hunit).mp (by omega)
    refine absurd ?_ hvalue
    rw [atMost_iff (Int.min_le_left e exponent) (Int.min_le_right e exponent)]
    generalize hbase : min e exponent = base
    calc m * 2 ^ (e - base).toNat
        ≤ 2 ^ 53 * 2 ^ (exponent + n - 1 - base).toNat :=
          Nat.mul_le_mul (Nat.le_of_lt hlt) (Nat.pow_le_pow_right (by decide) (by omega))
      _ = 2 ^ 52 * 2 ^ n * 2 ^ (exponent - base).toNat := by
          rw [← Nat.pow_add, ← Nat.pow_add, ← Nat.pow_add]
          congr 1
          omega
      _ ≤ mantissa * 2 ^ (exponent - base).toNat := Nat.mul_le_mul_right _ hlong
  · rw [atMost_iff_shift_le n rfl, Nat.not_le] at hvalue
    have hkept := (Nat.div_lt_iff_lt_mul hunit).mpr hvalue
    omega
  · omega

theorem roundsTo_kept (hlower : mantissa / 2 ^ n ≤ kept) (hupper : kept ≤ mantissa / 2 ^ n + 1)
    (hle : kept ≤ 2 ^ 53) (hleast : -1074 ≤ exponent + n)
    (hnormal : 2 ^ 52 ≤ mantissa / 2 ^ n ∨ exponent + n = -1074) :
    RoundsTo mantissa exponent (min (place kept (exponent + n)) infiniteRank) where
  nonneg := by
    unfold place infiniteRank
    omega
  le_infinite := Int.min_le_right _ _
  place_le hcanonical hfinite hvalue := by
    refine Int.le_min.mpr ⟨place_le_kept hcanonical hlower hle hleast hnormal hvalue, ?_⟩
    have hlt := hcanonical.mantissa_lt
    unfold place infiniteRank
    omega
  le_place hcanonical hvalue :=
    Int.le_trans (Int.min_le_left _ _) (kept_le_place hcanonical hupper hle hleast hnormal hvalue)

end

/-- Rounding goes to one of the two doubles around a number, or to the number itself. -/
theorem exists_roundsTo (sign : Sign) {mantissa : Nat} {exponent : Int} (accuracy : Accuracy)
    (h : exponent ≤ keptExponent mantissa exponent) :
    ∃ rank, RoundsTo mantissa exponent rank ∧
      packedRank (roundWithAccuracy Format.binary64 sign mantissa exponent accuracy) =
        sign.apply rank := by
  obtain ⟨⟨hlower, hupper⟩, hle, hnormal⟩ := keptMantissa_bounds accuracy h
  generalize hn : (keptExponent mantissa exponent - exponent).toNat = n at *
  generalize hextended :
    ExtendedMantissa.ofMantissaAndAccuracy mantissa accuracy >>> n = extended at *
  have hleast : -1074 ≤ keptExponent mantissa exponent := by
    unfold keptExponent
    omega
  have hfirst : shiftToTargetExponent Format.binary64 mantissa exponent accuracy =
      (extended, keptExponent mantissa exponent) := by
    unfold shiftToTargetExponent shiftToExponent
    dsimp only
    have htarget : Format.binary64.targetExponent (totalExponent mantissa exponent) =
        keptExponent mantissa exponent := rfl
    rw [htarget, hn, hextended]
    exact Prod.ext rfl (by dsimp only; omega)
  obtain ⟨m, e, hsecond, hcanonical, hplace⟩ := exists_canonical hle hleast (by omega)
  refine ⟨min (place m e) infiniteRank, ?_, ?_⟩
  · have hlast : keptExponent mantissa exponent = exponent + n := by omega
    rw [hlast] at hplace hleast hnormal
    rw [hplace]
    exact roundsTo_kept hlower hupper hle hleast hnormal
  · rw [← packedRank_finite sign hcanonical]
    unfold roundWithAccuracy
    rw [hfirst]
    dsimp only
    rw [hsecond]

theorem keptExponent_shiftLeft {mantissa : Nat} (hpos : 0 < mantissa) (exponent : Int) (k : Nat) :
    keptExponent (mantissa <<< k) (exponent - k) = keptExponent mantissa exponent := by
  unfold keptExponent
  rw [log2_shiftLeft hpos]
  omega

theorem exists_roundsTo_round (sign : Sign) {mantissa : Nat} (hpos : 0 < mantissa)
    (exponent : Int) :
    ∃ rank, RoundsTo mantissa exponent rank ∧
      packedRank (UnpackedFloat.round Format.binary64 sign mantissa exponent) =
        sign.apply rank := by
  generalize hk : (exponent - keptExponent mantissa exponent).toNat = k
  have hround : UnpackedFloat.round Format.binary64 sign mantissa exponent =
      roundWithAccuracy Format.binary64 sign (mantissa <<< k) (exponent - k) .exact := by
    rw [← hk]
    rfl
  have hkept := keptExponent_shiftLeft hpos exponent k
  obtain ⟨rank, hrank, hpacked⟩ := exists_roundsTo sign .exact
    (show exponent - k ≤ keptExponent (mantissa <<< k) (exponent - k) by omega)
  rw [Nat.shiftLeft_eq] at hrank
  exact ⟨rank, hrank.of_shift, hround ▸ hpacked⟩

end ContentionCharts.Number
