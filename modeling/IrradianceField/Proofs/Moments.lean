import IrradianceField.Scalar.Real
import IrradianceField.Proofs.Checked
import IrradianceField.Radiance.Sampler
import IrradianceField.Radiance.Updating

/-!
Moments: a mean of distances and their mean square, in exact arithmetic. All that is done to them,
from the gathering of rays to the bilinear filter, leaves the mean square at the square of the mean
or above.
-/

namespace IrradianceField

/-- The mean of some distances within `0 ..= limit`, and their mean square. -/
structure IsMoments (limit : ℝ) (m : Vec2 ℝ) : Prop where
  low : 0 ≤ m.x
  high : m.x ≤ limit
  square : m.y ≤ limit ^ 2
  spread : m.x ^ 2 ≤ m.y

structure IsWithin (limit : ℝ) (m : Vec2 ℝ) : Prop where
  low : 0 ≤ m.x
  high : m.x ≤ limit
  least : 0 ≤ m.y
  square : m.y ≤ limit ^ 2

theorem IsMoments.isWithin {limit : ℝ} {m : Vec2 ℝ} (moments : IsMoments limit m) :
    IsWithin limit m :=
  ⟨moments.low, moments.high, (sq_nonneg m.x).trans moments.spread, moments.square⟩

section Mixing

variable {limit t : ℝ} {a b : Vec2 ℝ}

theorem isMoments_zero (positive : 0 < limit) : IsMoments limit ⟨0, 0⟩ where
  low := le_rfl
  high := positive.le
  square := sq_nonneg limit
  spread := (zero_pow two_ne_zero).le

def mix (t : ℝ) (a b : Vec2 ℝ) : Vec2 ℝ := ⟨(1 - t) * a.x + t * b.x, (1 - t) * a.y + t * b.y⟩

theorem IsWithin.mix (first : IsWithin limit a) (second : IsWithin limit b) (low : 0 ≤ t)
    (high : t ≤ 1) : IsWithin limit (mix t a b) := by
  have rest : 0 ≤ 1 - t := sub_nonneg.mpr high
  refine ⟨?_, ?_, ?_, ?_⟩
  · exact add_nonneg (mul_nonneg rest first.low) (mul_nonneg low second.low)
  · calc (1 - t) * a.x + t * b.x
        ≤ (1 - t) * limit + t * limit :=
          add_le_add (mul_le_mul_of_nonneg_left first.high rest)
            (mul_le_mul_of_nonneg_left second.high low)
      _ = limit := by ring
  · exact add_nonneg (mul_nonneg rest first.least) (mul_nonneg low second.least)
  · calc (1 - t) * a.y + t * b.y
        ≤ (1 - t) * limit ^ 2 + t * limit ^ 2 :=
          add_le_add (mul_le_mul_of_nonneg_left first.square rest)
            (mul_le_mul_of_nonneg_left second.square low)
      _ = limit ^ 2 := by ring

theorem IsMoments.mix (first : IsMoments limit a) (second : IsMoments limit b) (low : 0 ≤ t)
    (high : t ≤ 1) : IsMoments limit (mix t a b) := by
  have rest : 0 ≤ 1 - t := sub_nonneg.mpr high
  have within := first.isWithin.mix second.isWithin low high
  refine ⟨within.low, within.high, within.square, ?_⟩
  calc ((1 - t) * a.x + t * b.x) ^ 2
      = (1 - t) * a.x ^ 2 + t * b.x ^ 2 - (1 - t) * t * (a.x - b.x) ^ 2 := by ring
    _ ≤ (1 - t) * a.x ^ 2 + t * b.x ^ 2 :=
        sub_le_self _ (mul_nonneg (mul_nonneg rest low) (sq_nonneg _))
    _ ≤ (1 - t) * a.y + t * b.y :=
        add_le_add (mul_le_mul_of_nonneg_left first.spread rest)
          (mul_le_mul_of_nonneg_left second.spread low)

theorem blend_eq_mix (t : ℝ) (a b : Vec2 ℝ) : a + (b - a).scale t = mix t a b := by
  simp only [Vec2.add_eq, Vec2.sub_eq, Vec2.scale_eq, IrradianceField.mix, Vec2.mk.injEq]
  constructor
  · ring
  · ring

end Mixing

namespace Updating

open Scalar

variable {limit : ℝ}

section Gathering

structure SumsMoments (limit : ℝ) (s : DistanceSum ℝ) : Prop where
  weight : 0 ≤ s.weight
  low : 0 ≤ s.sum.x
  high : s.sum.x ≤ limit * s.weight
  least : 0 ≤ s.sum.y
  square : s.sum.y ≤ limit ^ 2 * s.weight
  spread : s.sum.x ^ 2 ≤ s.weight * s.sum.y

theorem sumsMoments_zero : SumsMoments limit ⟨.splat 0.0, 0.0⟩ := by
  simp only [Vec2.splat, real_zero]
  exact ⟨le_rfl, le_rfl, by simp, le_rfl, by simp, by simp⟩

theorem SumsMoments.two_mul_le {s : DistanceSum ℝ} (sums : SumsMoments limit s) (d : ℝ) :
    2 * s.sum.x * d ≤ s.weight * d ^ 2 + s.sum.y := by
  have nonneg : 0 ≤ s.weight * d ^ 2 + s.sum.y :=
    add_nonneg (mul_nonneg sums.weight (sq_nonneg d)) sums.least
  refine le_of_sq_le_sq ?_ nonneg
  calc (2 * s.sum.x * d) ^ 2
      = 4 * d ^ 2 * s.sum.x ^ 2 := by ring
    _ ≤ 4 * d ^ 2 * (s.weight * s.sum.y) :=
        mul_le_mul_of_nonneg_left sums.spread (mul_nonneg (by norm_num) (sq_nonneg d))
    _ = (s.weight * d ^ 2 + s.sum.y) ^ 2 - (s.weight * d ^ 2 - s.sum.y) ^ 2 := by ring
    _ ≤ (s.weight * d ^ 2 + s.sum.y) ^ 2 := sub_le_self _ (sq_nonneg _)

theorem bounds_of_clamp {a d : ℝ} (cut : clamp 0.0 limit a = .ok d) : 0 ≤ d ∧ d ≤ limit := by
  rw [clamp] at cut
  split at cut
  · rename_i order
    obtain rfl := Except.ok.inj cut
    rw [real_zero, le_real, decide_eq_true_eq] at order
    rw [clampTo_real, real_zero]
    exact ⟨le_min (le_max_right _ _) order, min_le_right _ _⟩
  · cases cut

theorem SumsMoments.add {s s' : DistanceSum ℝ} {dir rayDir : Vec3 ℝ} {ray : Vec4 ℝ}
    (sums : SumsMoments limit s) (ran : s.add dir rayDir ray limit = .ok s') :
    SumsMoments limit s' := by
  obtain ⟨d, cut, ended⟩ := bind_eq_ok.mp ran
  have heavy : 0 ≤ powNat (maxNum (dir.dot rayDir) 0.0) distanceExponent := by
    refine powLoop_keeps (P := fun a : ℝ => 0 ≤ a) mul_nonneg _ ?_ ?_
    · simp
    · simp
  generalize powNat (maxNum (dir.dot rayDir) 0.0) distanceExponent = w at ended heavy
  obtain ⟨low, high⟩ := bounds_of_clamp cut
  obtain rfl := Except.ok.inj ended
  simp only [Vec2.add_eq, Vec2.scale_eq, sqr_real]
  refine ⟨?_, ?_, ?_, ?_, ?_, ?_⟩
  · exact add_nonneg sums.weight heavy
  · exact add_nonneg sums.low (mul_nonneg low heavy)
  · calc s.sum.x + d * w
        ≤ limit * s.weight + limit * w :=
          add_le_add sums.high (mul_le_mul_of_nonneg_right high heavy)
      _ = limit * (s.weight + w) := by ring
  · exact add_nonneg sums.least (mul_nonneg (sq_nonneg d) heavy)
  · calc s.sum.y + d ^ 2 * w
        ≤ limit ^ 2 * s.weight + limit ^ 2 * w :=
          add_le_add sums.square
            (mul_le_mul_of_nonneg_right (pow_le_pow_left₀ low high 2) heavy)
      _ = limit ^ 2 * (s.weight + w) := by ring
  · calc (s.sum.x + d * w) ^ 2
        = s.sum.x ^ 2 + w * (2 * s.sum.x * d) + w ^ 2 * d ^ 2 := by ring
      _ ≤ s.weight * s.sum.y + w * (s.weight * d ^ 2 + s.sum.y) + w ^ 2 * d ^ 2 := by
          have cross := mul_le_mul_of_nonneg_left (sums.two_mul_le d) heavy
          have spread := sums.spread
          linarith
      _ = (s.weight + w) * (s.sum.y + d ^ 2 * w) := by ring

theorem SumsMoments.divide {s : DistanceSum ℝ} (sums : SumsMoments limit s) {m : ℝ}
    (positive : 0 < m) (more : s.weight ≤ m) (nonneg : 0 ≤ limit) :
    IsMoments limit (s.sum.divide m) := by
  simp only [Vec2.divide_eq]
  refine ⟨?_, ?_, ?_, ?_⟩
  · exact div_nonneg sums.low positive.le
  · apply (div_le_iff₀ positive).mpr
    exact sums.high.trans (mul_le_mul_of_nonneg_left more nonneg)
  · apply (div_le_iff₀ positive).mpr
    exact sums.square.trans (mul_le_mul_of_nonneg_left more (sq_nonneg limit))
  · have total : s.sum.x ^ 2 ≤ m * s.sum.y :=
      sums.spread.trans (mul_le_mul_of_nonneg_right more sums.least)
    calc (s.sum.x / m) ^ 2
        = s.sum.x ^ 2 / m ^ 2 := div_pow _ _ _
      _ ≤ m * s.sum.y / m ^ 2 := div_le_div_of_nonneg_right total (sq_nonneg m)
      _ = s.sum.y / m := by field_simp

theorem clampMoments_of_isWithin {m : Vec2 ℝ} (within : IsWithin limit m) :
    clampMoments m limit = .ok m := by
  have nonneg : 0 ≤ limit := within.low.trans within.high
  have first : clamp 0.0 limit m.x = .ok m.x := by
    rw [clamp, real_zero, le_real, decide_eq_true nonneg, if_pos rfl, clampTo_real,
      max_eq_left within.low, min_eq_left within.high]
  have second : clamp 0.0 (sqr limit) m.y = .ok m.y := by
    rw [clamp, real_zero, le_real, sqr_real, decide_eq_true (sq_nonneg limit), if_pos rfl,
      clampTo_real, max_eq_left within.least, min_eq_left within.square]
  rw [clampMoments, first, second]
  rfl

theorem clampMoments_eq {m : Vec2 ℝ} (moments : IsMoments limit m) :
    clampMoments m limit = .ok m :=
  clampMoments_of_isWithin moments.isWithin

variable {volume : Volume ℝ} {trace : Array (Vec4 ℝ)} {batchProbe : Nat} {dir : Vec3 ℝ}

theorem isMoments_of_gather {raw : Vec2 ℝ} (nonneg : 0 ≤ limit) (some : 1 ≤ volume.raysCount)
    (ran : gatherDistance volume trace batchProbe dir limit = .ok raw) : IsMoments limit raw := by
  obtain ⟨total, summed, clamped⟩ := bind_eq_ok.mp ran
  have sums : SumsMoments limit total := by
    refine foldlM_keeps (SumsMoments limit) ?_ sumsMoments_zero summed
    intro ray _ s s' sums step
    obtain ⟨⟨rayDir, stored⟩, -, added⟩ := bind_eq_ok.mp step
    exact sums.add added
  have rays : 0 < raysRead volume := Nat.lt_min.mpr ⟨some, by decide⟩
  have floor : (0 : ℝ) < ofNat (raysRead volume) * 1e-9 := by
    have count : (0 : ℝ) < (raysRead volume : ℝ) := Nat.cast_pos.mpr rays
    exact mul_pos count (by norm_num)
  dsimp only at clamped
  rw [maxNum_real] at clamped
  have moments := sums.divide (lt_max_of_lt_right floor) (le_max_left _ _) nonneg
  rw [clampMoments_eq moments] at clamped
  exact Except.ok.inj clamped ▸ moments

theorem isMoments_of_blend {raw previous : Vec2 ℝ} {weight : ℝ} (first : IsMoments limit raw)
    (second : IsMoments limit previous) (high : weight < 1) :
    ∃ out, blendDistance raw previous weight limit = .ok out ∧ IsMoments limit out := by
  rw [blendDistance]
  by_cases none : weight ≤ 0
  · refine ⟨raw, ?_, first⟩
    simp [none]
  · have mixed := first.mix second (not_le.mp none).le high.le
    refine ⟨_, ?_, mixed⟩
    rw [blend_eq_mix, clampMoments_eq mixed]
    simp [none]

end Gathering

end Updating

end IrradianceField
