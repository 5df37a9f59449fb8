import ContentionCharts.Chart.Axis
import ContentionCharts.Proofs.Number.Monotone

/-!
What the ranges of the axes contain. The least and the greatest key are keys, so that every key lies
between them and room on either side leaves it there. The value axis ends a tenth above the largest
finite value, if that is positive; no other value has a say.
-/
namespace ContentionCharts

open ContentionCharts.Number

/-! The foremost of many numbers, in either direction. -/

structure Foremost (before : Int → Int → Prop) (x : Float) (values : List Float) : Prop where
  mem : x ∈ values
  before_all : ∀ y ∈ values, before (rank x) (rank y)

structure Picks (before : Int → Int → Prop) (pick : Float → Float → Float) : Prop where
  eq_or_eq : ∀ x y, pick x y = x ∨ pick x y = y
  before_both : ∀ {x y : Float}, x.isNaN = false → y.isNaN = false →
    before (rank (pick x y)) (rank x) ∧ before (rank (pick x y)) (rank y)

theorem picks_min : Picks (· ≤ ·) min where
  eq_or_eq x y := by
    change (if x ≤ y then x else y) = x ∨ (if x ≤ y then x else y) = y
    by_cases h : x ≤ y
    · exact .inl (if_pos h)
    · exact .inr (if_neg h)
  before_both hx hy := by
    rw [rank_min hx hy]
    exact ⟨Int.min_le_left _ _, Int.min_le_right _ _⟩

theorem picks_max : Picks (· ≥ ·) max where
  eq_or_eq x y := by
    change (if x ≤ y then y else x) = x ∨ (if x ≤ y then y else x) = y
    by_cases h : x ≤ y
    · exact .inr (if_pos h)
    · exact .inl (if_neg h)
  before_both hx hy := by
    rw [rank_max hx hy]
    exact ⟨Int.le_max_left _ _, Int.le_max_right _ _⟩

section

variable {before : Int → Int → Prop} {pick : Float → Float → Float}

/-- By induction on the values: whatever is picked so far takes the place of the start. -/
theorem Picks.foremost_foldl [Std.Refl before] [Trans before before before]
    (h : Picks before pick) (values : List Float) {start : Float} (hstart : start.isNaN = false)
    (hvalues : ∀ x ∈ values, x.isNaN = false) :
    Foremost before (values.foldl pick start) (start :: values) := by
  induction values generalizing start with
  | nil =>
    refine ⟨List.mem_singleton_self start, fun y hy => ?_⟩
    rw [List.mem_singleton.mp hy]
    exact Std.Refl.refl _
  | cons first rest ih =>
    obtain ⟨hfirst, hrest⟩ := List.forall_mem_cons.mp hvalues
    have hpick : (pick start first).isNaN = false := by
      rcases h.eq_or_eq start first with heq | heq
      · rwa [heq]
      · rwa [heq]
    obtain ⟨hbeforeStart, hbeforeFirst⟩ := h.before_both hstart hfirst
    obtain ⟨hmem, hbefore⟩ := ih hpick hrest
    obtain ⟨hbeforePick, hbeforeRest⟩ := List.forall_mem_cons.mp hbefore
    constructor
    · rcases List.mem_cons.mp hmem with heq | hmemRest
      · rw [List.foldl_cons, heq]
        rcases h.eq_or_eq start first with hleft | hright
        · rw [hleft]
          exact List.mem_cons_self
        · rw [hright]
          exact List.mem_cons_of_mem _ List.mem_cons_self
      · exact List.mem_cons_of_mem _ (List.mem_cons_of_mem _ hmemRest)
    · refine List.forall_mem_cons.mpr ⟨Trans.trans hbeforePick hbeforeStart, ?_⟩
      exact List.forall_mem_cons.mpr ⟨Trans.trans hbeforePick hbeforeFirst, hbeforeRest⟩

/-- A start that is given up for every value is not among the candidates. -/
theorem Picks.foremost_foldl_of_ne_nil [Std.Refl before] [Trans before before before]
    (h : Picks before pick) {values : List Float} {start : Float} (hne : values ≠ [])
    (hstart : ∀ x ∈ values, pick start x = x) (hvalues : ∀ x ∈ values, x.isNaN = false) :
    Foremost before (values.foldl pick start) values := by
  cases values with
  | nil => contradiction
  | cons first rest =>
    obtain ⟨hfirst, hrest⟩ := List.forall_mem_cons.mp hvalues
    rw [List.foldl_cons, hstart first List.mem_cons_self]
    exact h.foremost_foldl rest hfirst hrest

theorem Foremost.rank_eq [Std.Antisymm before] {x y : Float} {values others : List Float}
    (hx : Foremost before x values) (hy : Foremost before y others)
    (h : ∀ z, z ∈ values ↔ z ∈ others) : rank x = rank y :=
  Std.Antisymm.antisymm _ _ (hx.before_all y ((h y).mpr hy.mem)) (hy.before_all x ((h x).mp hx.mem))

end

/-! Keys. -/

structure IsPosition (x : Float) : Prop where
  unsigned : IsUnsigned x
  finite : rank x < infiniteRank

theorem isPosition_toFloat (key : UInt64) : IsPosition key.toFloat :=
  ⟨isUnsigned_toFloat key, (rank_toFloat_bounds key).1⟩

theorem IsPosition.le_iff {x y : Float} (hx : IsPosition x) (hy : IsPosition y) :
    x ≤ y ↔ rank x ≤ rank y :=
  le_iff_rank hx.unsigned.not_nan hy.unsigned.not_nan

theorem factorForm_tenth : FactorForm (1.1 : Float).toModel.unpack := by
  have hunpack : (1.1 : Float).toModel.unpack =
      .finite .positive 4953959590107546 (-52) (by decide) := by rfl
  rw [hunpack]
  exact .intro _ (by decide) (by decide)

theorem factorForm_half : FactorForm (1.5 : Float).toModel.unpack := by
  have hunpack : (1.5 : Float).toModel.unpack =
      .finite .positive (3 * 2 ^ 51) (-52) (by decide) := by rfl
  rw [hunpack]
  exact .intro _ (by decide) (by decide)

section

variable {keys others : List Float} (hkeys : ∀ x ∈ keys, IsPosition x) (hne : keys ≠ [])

include hkeys hne

theorem foremost_lowest : Foremost (· ≤ ·) (lowest keys) keys := by
  refine picks_min.foremost_foldl_of_ne_nil hne (fun x hx => if_neg ?_) fun x hx =>
    (hkeys x hx).unsigned.not_nan
  have hrank : rank infinity = infiniteRank := by decide
  rw [le_iff_rank (by decide) (hkeys x hx).unsigned.not_nan, hrank]
  exact Int.not_le.mpr (hkeys x hx).finite

theorem foremost_highest : Foremost (· ≥ ·) (highest keys) keys := by
  refine picks_max.foremost_foldl_of_ne_nil hne (fun x hx => if_pos ?_) fun x hx =>
    (hkeys x hx).unsigned.not_nan
  have hrank : rank (-infinity) = -infiniteRank := by decide
  have hnonneg := (hkeys x hx).unsigned.rank_nonneg
  rw [le_iff_rank (by decide) (hkeys x hx).unsigned.not_nan, hrank]
  unfold infiniteRank
  omega

theorem isPosition_lowest : IsPosition (lowest keys) :=
  hkeys _ (foremost_lowest hkeys hne).mem

theorem isPosition_highest : IsPosition (highest keys) :=
  hkeys _ (foremost_highest hkeys hne).mem

theorem lowest_le {x : Float} (hx : x ∈ keys) : lowest keys ≤ x :=
  ((isPosition_lowest hkeys hne).le_iff (hkeys x hx)).mpr
    ((foremost_lowest hkeys hne).before_all x hx)

theorem le_highest {x : Float} (hx : x ∈ keys) : x ≤ highest keys :=
  ((hkeys x hx).le_iff (isPosition_highest hkeys hne)).mpr
    ((foremost_highest hkeys hne).before_all x hx)

theorem isUnsigned_room :
    IsUnsigned (max ((highest keys - lowest keys) * 0.05) 0.5) := by
  have hlow := isPosition_lowest hkeys hne
  have hhigh := isPosition_highest hkeys hne
  have hspread : IsUnsigned (highest keys - lowest keys) :=
    isUnsigned_sub hhigh.unsigned hhigh.finite hlow.unsigned
      (lowest_le hkeys hne (foremost_highest hkeys hne).mem)
  have hpart : IsUnsigned ((highest keys - lowest keys) * 0.05) :=
    isUnsigned_mul hspread (by decide)
  rcases picks_max.eq_or_eq ((highest keys - lowest keys) * 0.05) 0.5 with h | h
  · rwa [h]
  · rw [h]
    exact ⟨by decide, by decide⟩

theorem Scale.range_contains (scale : Scale) {x : Float} (hx : x ∈ keys) :
    (scale.range keys).start ≤ x ∧ x ≤ (scale.range keys).stop := by
  have hlow := isPosition_lowest hkeys hne
  have hhigh := isPosition_highest hkeys hne
  have hroom := isUnsigned_room hkeys hne
  cases scale with
  | linear =>
    exact ⟨le_trans (sub_le hlow.unsigned hlow.finite hroom) (lowest_le hkeys hne hx),
      le_trans (le_highest hkeys hne hx) (le_add hhigh.unsigned hroom)⟩
  | logarithmic =>
    exact ⟨le_trans (div_le hlow.unsigned factorForm_half) (lowest_le hkeys hne hx),
      le_trans (le_highest hkeys hne hx) (le_mul hhigh.unsigned factorForm_half)⟩

theorem logarithmicRange_start_pos (hlarge : ∀ x ∈ keys, 1 < rank x) :
    0 < (logarithmicRange keys).start := by
  have hlow := foremost_lowest hkeys hne
  have hposition := isPosition_lowest hkeys hne
  have hquotient := isUnsigned_div hposition.unsigned factorForm_half.isPositive
  have hzero : rank 0 = 0 := by decide
  exact (lt_iff_rank (by decide) hquotient.not_nan).mpr
    (hzero ▸ rank_div_pos hposition.unsigned factorForm_half (hlarge _ hlow.mem))

/-- Only which keys there are counts, not their order or how often each of them is there. -/
theorem Scale.range_congr (scale : Scale) (h : ∀ x, x ∈ keys ↔ x ∈ others) :
    scale.range keys = scale.range others := by
  have hothers : ∀ x ∈ others, IsPosition x := fun x hx => hkeys x ((h x).mpr hx)
  have hneOthers : others ≠ [] :=
    List.ne_nil_of_mem ((h _).mp (foremost_lowest hkeys hne).mem)
  have hlow : lowest keys = lowest others :=
    (isPosition_lowest hkeys hne).unsigned.eq_of_rank_eq
      (isPosition_lowest hothers hneOthers).unsigned
      ((foremost_lowest hkeys hne).rank_eq (foremost_lowest hothers hneOthers) h)
  have hhigh : highest keys = highest others :=
    (isPosition_highest hkeys hne).unsigned.eq_of_rank_eq
      (isPosition_highest hothers hneOthers).unsigned
      ((foremost_highest hkeys hne).rank_eq (foremost_highest hothers hneOthers) h)
  cases scale with
  | linear =>
    unfold Scale.range linearRange
    dsimp only
    rw [hlow, hhigh]
  | logarithmic =>
    unfold Scale.range logarithmicRange
    dsimp only
    rw [hlow, hhigh]

end

/-! Values. -/

theorem isNaN_of_isFinite {x : Float} (h : x.isFinite) : x.isNaN = false := by
  change x.toModel.unpack.isFinite at h
  change x.toModel.unpack.isNaN = false
  cases hunpack : x.toModel.unpack with
  | notANumber =>
    rw [hunpack] at h
    contradiction
  | infinity => rfl
  | zero => rfl
  | finite => rfl

theorem pos_iff_rank {x : Float} (h : x.isNaN = false) : 0 < x ↔ 0 < rank x :=
  lt_iff_rank (by decide) h

/-- Finite and above zero: what the end of the value axis depends on. -/
structure IsRaised (x : Float) : Prop where
  isFinite : x.isFinite
  pos : 0 < x

structure IsTop (x : Float) (values : List Float) : Prop where
  mem : x ∈ values
  raised : IsRaised x
  le : ∀ y ∈ values, y.isFinite → y ≤ x

theorem IsRaised.rank_pos {x : Float} (h : IsRaised x) : 0 < rank x :=
  (pos_iff_rank (isNaN_of_isFinite h.isFinite)).mp h.pos

theorem IsRaised.isUnsigned {x : Float} (h : IsRaised x) : IsUnsigned x :=
  isUnsigned_of_rank_pos h.rank_pos
    (isNaN_eq_false_iff.mp (isNaN_of_isFinite h.isFinite)).2

theorem IsTop.unique {x y : Float} {values : List Float} (hx : IsTop x values)
    (hy : IsTop y values) : x = y := by
  have hxy := (le_iff.mp (hy.le x hx.mem hx.raised.isFinite)).2.2
  have hyx := (le_iff.mp (hx.le y hy.mem hy.raised.isFinite)).2.2
  exact hx.raised.isUnsigned.eq_of_rank_eq hy.raised.isUnsigned (Int.le_antisymm hxy hyx)

theorem foremost_peak (values : List Float) :
    Foremost (· ≥ ·) (peak values) (0 :: values.filter Float.isFinite) :=
  picks_max.foremost_foldl _ (by decide) fun _ hx =>
    isNaN_of_isFinite (List.mem_filter.mp hx).2

section

variable {values others : List Float}

theorem valueRange_cases (values : List Float) :
    (∀ y ∈ values, ¬IsRaised y) ∧ valueRange values = ⟨0, 1⟩ ∨
      ∃ top, IsTop top values ∧ valueRange values = ⟨0, top * 1.1⟩ := by
  obtain ⟨hmem, hranks⟩ := foremost_peak values
  obtain ⟨_, hfinite⟩ := List.forall_mem_cons.mp hranks
  have hle (y : Float) (hy : y ∈ values) (hyFinite : y.isFinite) : rank y ≤ rank (peak values) :=
    hfinite y (List.mem_filter.mpr ⟨hy, hyFinite⟩)
  have hnumber : (peak values).isNaN = false := by
    rcases List.mem_cons.mp hmem with hzero | hvalue
    · rw [hzero]
      decide
    · exact isNaN_of_isFinite (List.mem_filter.mp hvalue).2
  unfold valueRange
  dsimp only
  by_cases hpos : 0 < peak values
  · rw [if_pos hpos]
    right
    rcases List.mem_cons.mp hmem with hzero | hvalue
    · rw [hzero] at hpos
      exact absurd hpos (by decide)
    · obtain ⟨hvalues, hpeak⟩ := List.mem_filter.mp hvalue
      refine ⟨_, ⟨hvalues, ⟨hpeak, hpos⟩, fun y hy hyFinite => ?_⟩, rfl⟩
      exact (le_iff_rank (isNaN_of_isFinite hyFinite) (isNaN_of_isFinite hpeak)).mpr
        (hle y hy hyFinite)
  · rw [if_neg hpos]
    refine .inl ⟨fun y hy hraised => hpos ?_, rfl⟩
    exact (pos_iff_rank hnumber).mpr
      (Int.lt_of_lt_of_le hraised.rank_pos (hle y hy hraised.isFinite))

theorem valueRange_contains (values : List Float) :
    (valueRange values).start = 0 ∧ 0 < (valueRange values).stop ∧
      ∀ y ∈ values, y.isFinite → y ≤ (valueRange values).stop := by
  rcases valueRange_cases values with ⟨hnone, hrange⟩ | ⟨top, htop, hrange⟩
  · rw [hrange]
    refine ⟨rfl, by decide, fun y hy hfinite => ?_⟩
    have hnumber := isNaN_of_isFinite hfinite
    have hrank : ¬0 < rank y := fun hpos =>
      hnone y hy ⟨hfinite, (pos_iff_rank hnumber).mpr hpos⟩
    rw [le_iff_rank hnumber (by decide), rank_one]
    omega
  · rw [hrange]
    have hgrows := le_mul htop.raised.isUnsigned factorForm_tenth
    refine ⟨rfl, ?_, fun y hy hfinite => le_trans (htop.le y hy hfinite) hgrows⟩
    obtain ⟨_, hnumber, hrank⟩ := le_iff.mp hgrows
    exact (pos_iff_rank hnumber).mpr (Int.lt_of_lt_of_le htop.raised.rank_pos hrank)

theorem IsTop.of_raised {x : Float} (h : ∀ y, IsRaised y → (y ∈ values ↔ y ∈ others))
    (hx : IsTop x values) : IsTop x others where
  mem := (h x hx.raised).mp hx.mem
  raised := hx.raised
  le y hy hfinite := by
    by_cases hpos : 0 < y
    · exact hx.le y ((h y ⟨hfinite, hpos⟩).mpr hy) hfinite
    · have hnumber := isNaN_of_isFinite hfinite
      have hrank := hx.raised.rank_pos
      rw [pos_iff_rank hnumber] at hpos
      rw [le_iff_rank hnumber hx.raised.isUnsigned.not_nan]
      omega

theorem valueRange_congr (h : ∀ y, IsRaised y → (y ∈ values ↔ y ∈ others)) :
    valueRange values = valueRange others := by
  rcases valueRange_cases values with ⟨hnone, hrange⟩ | ⟨top, htop, hrange⟩
  · rcases valueRange_cases others with ⟨_, hother⟩ | ⟨other, hotherTop, _⟩
    · rw [hrange, hother]
    · exact absurd hotherTop.raised (hnone other ((h other hotherTop.raised).mpr hotherTop.mem))
  · rcases valueRange_cases others with ⟨hnone, _⟩ | ⟨other, hotherTop, hother⟩
    · exact absurd htop.raised (hnone top ((h top htop.raised).mp htop.mem))
    · rw [hrange, hother, (htop.of_raised h).unique hotherTop]

end

end ContentionCharts
