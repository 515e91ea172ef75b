import IrradianceField.Proofs.Moments
import Mathlib.Data.Sign.Basic

/-!
Blending: how a stored value follows a gathered one that stays the same, in exact arithmetic. A blend
takes the same share of the difference off every channel, so that none of them overshoots, whichever
of the blends are sped up or damped.
-/

namespace IrradianceField.Updating

open Scalar

variable {weight : ℝ}

section Irradiance

variable {raw previous : Vec3 ℝ}

noncomputable def remainder (delta : Vec3 ℝ) (weight : ℝ) : ℝ :=
  if weight ≤ 0 then 0
  else
    let kept := if 1 / 2 < delta.abs.maxElement then weight / 2 else weight
    if 2 < delta.length then 1 - (1 - kept) / 4 else kept

theorem sub_blendIrradiance (raw previous : Vec3 ℝ) (weight : ℝ) :
    raw - blendIrradiance raw previous weight =
      (raw - previous).scale (remainder (raw - previous) weight) := by
  have threshold : (flickerThreshold : ℝ) = 1 / 2 := real_half
  have limit : (flickerLimit : ℝ) = 2 := real_two
  have quarter : (0.25 : ℝ) = 1 / 4 := by norm_num
  have halved : (if 1 / 2 < (raw - previous).abs.maxElement then weight * 0.5 else weight) =
      if 1 / 2 < (raw - previous).abs.maxElement then weight / 2 else weight := by
    rw [real_half, mul_one_div]
  simp only [blendIrradiance, remainder, le_real, lt_real, real_zero, threshold, limit, halved,
    decide_eq_true_eq]
  generalize (if 1 / 2 < (raw - previous).abs.maxElement then weight / 2 else weight) = kept
  split
  · simp only [Vec3.sub_eq, Vec3.scale_eq, sub_self, mul_zero]
  · split
    · simp only [Vec3.sub_eq, Vec3.add_eq, Vec3.scale_eq, quarter, Vec3.mk.injEq]
      refine ⟨?_, ?_, ?_⟩ <;> ring
    · simp only [Vec3.sub_eq, Vec3.add_eq, Vec3.scale_eq, Vec3.mk.injEq]
      refine ⟨?_, ?_, ?_⟩ <;> ring

theorem remainder_bounds (low : 0 ≤ weight) (high : weight < 1) (delta : Vec3 ℝ) :
    0 ≤ remainder delta weight ∧ remainder delta weight ≤ 1 - (1 - weight) / 4 := by
  have halved : 0 ≤ (if 1 / 2 < delta.abs.maxElement then weight / 2 else weight) ∧
      (if 1 / 2 < delta.abs.maxElement then weight / 2 else weight) ≤ weight := by
    split
    · constructor <;> linarith
    · exact ⟨low, le_rfl⟩
  revert halved
  unfold remainder
  generalize (if 1 / 2 < delta.abs.maxElement then weight / 2 else weight) = kept
  rintro ⟨least, most⟩
  dsimp only
  split
  · constructor <;> linarith
  · split
    · constructor <;> linarith
    · constructor <;> linarith

theorem remainder_of_long {delta : Vec3 ℝ} (some : 0 < weight) (long : 2 < delta.length) :
    3 / 4 ≤ remainder delta weight := by
  have kept : 0 ≤ (if 1 / 2 < delta.abs.maxElement then weight / 2 else weight) := by
    split
    · exact half_pos some |>.le
    · exact some.le
  simp only [remainder, if_neg (not_le.mpr some), if_pos long]
  linarith

def irradianceAfter {α : Type} [Scalar α] (raw : Vec3 α) (weight : α) (previous : Vec3 α) :
    Nat → Vec3 α
  | 0 => previous
  | n + 1 => blendIrradiance raw (irradianceAfter raw weight previous n) weight

theorem sub_irradianceAfter_succ (raw : Vec3 ℝ) (weight : ℝ) (previous : Vec3 ℝ) (n : Nat) :
    raw - irradianceAfter raw weight previous (n + 1) =
      (raw - irradianceAfter raw weight previous n).scale
        (remainder (raw - irradianceAfter raw weight previous n) weight) :=
  sub_blendIrradiance ..

theorem sub_irradianceAfter (low : 0 ≤ weight) (high : weight < 1) (raw previous : Vec3 ℝ)
    (n : Nat) : ∃ left, 0 ≤ left ∧ left ≤ (1 - (1 - weight) / 4) ^ n ∧
      raw - irradianceAfter raw weight previous n = (raw - previous).scale left := by
  induction n with
  | zero =>
      refine ⟨1, zero_le_one, (pow_zero _).ge, ?_⟩
      simp only [irradianceAfter, Vec3.scale_eq, mul_one]
  | succ n ih =>
      rcases ih with ⟨left, nonneg, most, along⟩
      obtain ⟨nonneg', most'⟩ :=
        remainder_bounds low high (raw - irradianceAfter raw weight previous n)
      refine ⟨left * _, mul_nonneg nonneg nonneg', ?_, ?_⟩
      · rw [pow_succ]
        exact mul_le_mul most most' nonneg' (nonneg.trans most)
      · rw [sub_irradianceAfter_succ, along]
        simp only [Vec3.scale_eq, mul_assoc]

/-- A difference that keeps its sign until it is gone, never grows, and is smaller by a factor after
each step. -/
structure Approaches (factor : ℝ) (error : Nat → ℝ) : Prop where
  sign : ∀ n, error n = 0 ∨ SignType.sign (error n) = SignType.sign (error 0)
  shrinks : ∀ n, |error (n + 1)| ≤ |error n|
  bound : ∀ n, |error n| ≤ factor ^ n * |error 0|

theorem approaches_axis (low : 0 ≤ weight) (high : weight < 1) (raw previous : Vec3 ℝ)
    (axis : Nat) : Approaches (1 - (1 - weight) / 4)
      fun n => (raw - irradianceAfter raw weight previous n).axis axis := by
  have part : ∀ n, ∃ left, 0 ≤ left ∧ left ≤ (1 - (1 - weight) / 4) ^ n ∧
      (raw - irradianceAfter raw weight previous n).axis axis =
        (raw - previous).axis axis * left := by
    intro n
    rcases sub_irradianceAfter low high raw previous n with ⟨left, nonneg, most, along⟩
    exact ⟨left, nonneg, most, by rw [along, Vec3.axis_scale]⟩
  constructor
  case sign =>
    intro n
    rcases part n with ⟨left, nonneg, -, same⟩
    rcases nonneg.eq_or_lt with rfl | some
    · exact .inl (by rw [same, mul_zero])
    · exact .inr (by rw [same, sign_mul, sign_pos some, mul_one, irradianceAfter])
  case shrinks =>
    intro n
    obtain ⟨nonneg, most⟩ :=
      remainder_bounds low high (raw - irradianceAfter raw weight previous n)
    rw [sub_irradianceAfter_succ, Vec3.axis_scale, abs_mul, abs_of_nonneg nonneg]
    exact mul_le_of_le_one_right (abs_nonneg _) (by linarith)
  case bound =>
    intro n
    rcases part n with ⟨left, nonneg, most, same⟩
    rw [same, abs_mul, abs_of_nonneg nonneg, irradianceAfter, mul_comm]
    exact mul_le_mul_of_nonneg_right most (abs_nonneg _)

theorem blendIrradiance_of_long (some : 0 < weight) (high : weight < 1)
    (long : 2 < (raw - previous).length) : ∃ share, 0 ≤ share ∧ share ≤ 1 / 4 ∧
      blendIrradiance raw previous weight - previous = (raw - previous).scale share := by
  have most := remainder_of_long some long
  have least := (remainder_bounds some.le high (raw - previous)).2
  refine ⟨1 - remainder (raw - previous) weight, by linarith, by linarith, ?_⟩
  have left := sub_blendIrradiance raw previous weight
  simp only [Vec3.sub_eq, Vec3.scale_eq, Vec3.mk.injEq] at left ⊢
  obtain ⟨x, y, z⟩ := left
  refine ⟨?_, ?_, ?_⟩
  · linear_combination -x
  · linear_combination -y
  · linear_combination -z

end Irradiance

section Distances

variable {raw previous : Vec2 ℝ} {limit : ℝ}

theorem blendDistance_of_isWithin (low : 0 ≤ weight) (high : weight < 1)
    (first : IsWithin limit raw) (second : IsWithin limit previous) : ∃ out,
      blendDistance raw previous weight limit = .ok out ∧ IsWithin limit out ∧
        raw - out = (raw - previous).scale weight := by
  rw [blendDistance]
  by_cases none : weight ≤ 0
  · obtain rfl := le_antisymm none low
    refine ⟨raw, ?_, first, ?_⟩
    · simp
    · simp only [Vec2.sub_eq, Vec2.scale_eq, sub_self, mul_zero]
  · have mixed := first.mix second low high.le
    refine ⟨_, ?_, mixed, ?_⟩
    · rw [blend_eq_mix, clampMoments_of_isWithin mixed]
      simp [none]
    · simp only [mix, Vec2.sub_eq, Vec2.scale_eq, Vec2.mk.injEq]
      constructor
      · ring
      · ring

def momentsAfter {α : Type} [Scalar α] (raw : Vec2 α) (weight limit : α) (previous : Vec2 α) :
    Nat → Except Fault (Vec2 α)
  | 0 => return previous
  | n + 1 => do blendDistance raw (← momentsAfter raw weight limit previous n) weight limit

theorem momentsAfter_of_isWithin (low : 0 ≤ weight) (high : weight < 1)
    (first : IsWithin limit raw) (second : IsWithin limit previous) (n : Nat) : ∃ out,
      momentsAfter raw weight limit previous n = .ok out ∧ IsWithin limit out ∧
        raw - out = (raw - previous).scale (weight ^ n) := by
  induction n with
  | zero =>
      refine ⟨previous, rfl, second, ?_⟩
      simp only [Vec2.scale_eq, pow_zero, mul_one]
  | succ n ih =>
      rcases ih with ⟨before, ran, within, left⟩
      rcases blendDistance_of_isWithin low high first within with ⟨out, blended, kept, left'⟩
      refine ⟨out, bind_eq_ok.mpr ⟨before, ran, blended⟩, kept, ?_⟩
      rw [left', left]
      simp only [Vec2.scale_eq, pow_succ, mul_assoc]

end Distances

/-- Blends with the same gathered values lead towards these: every channel of the irradiance as fast
as the weight of the history and the damping allow, by a quarter of the way at most while it is too
long, and distances by the weight of the history, within their bounds. -/
theorem blends_converge (low : 0 ≤ weight) (high : weight < 1) :
    (∀ (raw previous : Vec3 ℝ) (axis : Nat), Approaches (1 - (1 - weight) / 4)
        fun n => (raw - irradianceAfter raw weight previous n).axis axis) ∧
      (∀ (raw previous : Vec3 ℝ) (n : Nat), 0 < weight →
        2 < (raw - irradianceAfter raw weight previous n).length → ∃ share, 0 ≤ share ∧
          share ≤ 1 / 4 ∧
          irradianceAfter raw weight previous (n + 1) - irradianceAfter raw weight previous n =
            (raw - irradianceAfter raw weight previous n).scale share) ∧
      ∀ (limit : ℝ) (raw previous : Vec2 ℝ), IsWithin limit raw → IsWithin limit previous →
        ∀ n, ∃ out, momentsAfter raw weight limit previous n = .ok out ∧ IsWithin limit out ∧
          raw - out = (raw - previous).scale (weight ^ n) :=
  ⟨approaches_axis low high, fun _ _ _ some => blendIrradiance_of_long some high,
    fun _ _ _ first second => momentsAfter_of_isWithin low high first second⟩

/-- A light that is turned on, and distances that become half as large. -/
theorem blends_converge_flash :
    (∀ n, |((⟨4, 0, 1⟩ : Vec3 ℝ) - irradianceAfter ⟨4, 0, 1⟩ (9 / 10) ⟨0, 0, 0⟩ n).x| ≤
        (39 / 40) ^ n * 4) ∧
      (∃ share, 0 ≤ share ∧ share ≤ 1 / 4 ∧
        irradianceAfter (⟨4, 0, 1⟩ : Vec3 ℝ) (9 / 10) ⟨0, 0, 0⟩ 1 - ⟨0, 0, 0⟩ =
          ((⟨4, 0, 1⟩ : Vec3 ℝ) - ⟨0, 0, 0⟩).scale share) ∧
      ∃ out, momentsAfter (⟨1, 2⟩ : Vec2 ℝ) (9 / 10) 3 ⟨2, 8⟩ 3 = .ok out ∧ IsWithin 3 out ∧
        ⟨1, 2⟩ - out = ((⟨1, 2⟩ : Vec2 ℝ) - ⟨2, 8⟩).scale ((9 / 10) ^ 3) := by
  obtain ⟨irradiance, damped, moments⟩ := @blends_converge (9 / 10) (by norm_num) (by norm_num)
  refine ⟨fun n => ?_, ?_, ?_⟩
  · have bound := (irradiance ⟨4, 0, 1⟩ ⟨0, 0, 0⟩ 0).bound n
    have start : |((⟨4, 0, 1⟩ : Vec3 ℝ) - irradianceAfter ⟨4, 0, 1⟩ (9 / 10) ⟨0, 0, 0⟩ 0).axis 0| =
        4 := by
      norm_num [irradianceAfter, Vec3.sub_eq, Vec3.axis]
    rw [start] at bound
    norm_num at bound
    exact bound
  · refine damped ⟨4, 0, 1⟩ ⟨0, 0, 0⟩ 0 (by norm_num) ?_
    refine lt_of_lt_of_le ?_ (Vec3.abs_axis_le_length _ 0)
    norm_num [irradianceAfter, Vec3.sub_eq, Vec3.axis]
  · exact moments 3 ⟨1, 2⟩ ⟨2, 8⟩ ⟨by norm_num, by norm_num, by norm_num, by norm_num⟩
      ⟨by norm_num, by norm_num, by norm_num, by norm_num⟩ 3

end IrradianceField.Updating
