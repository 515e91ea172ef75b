import Mathlib.Analysis.SpecialFunctions.Trigonometric.Bounds
import IrradianceField.Proofs.Furnace

/-!
Spreading: the rays of the smallest lattice reach far into all octants, so that around every
direction some of them have weight.
-/

namespace IrradianceField

open Scalar

namespace Ray

section Quarters

variable {x : ℝ} {n : Nat}

theorem turn_quarter (x : ℝ) :
    Real.cos (2 * Real.pi * x) = -Real.sin (2 * Real.pi * (x - 1 / 4)) ∧
      Real.sin (2 * Real.pi * x) = Real.cos (2 * Real.pi * (x - 1 / 4)) := by
  have turned : 2 * Real.pi * x = 2 * Real.pi * (x - 1 / 4) + Real.pi / 2 := by ring
  rw [turned, Real.cos_add_pi_div_two, Real.sin_add_pi_div_two]
  exact ⟨rfl, rfl⟩

theorem first_quarter (low : n + 0.07 ≤ x) (high : x ≤ n + 0.18) :
    0.28 ≤ Real.cos (2 * Real.pi * x) ∧ 0.28 ≤ Real.sin (2 * Real.pi * x) := by
  have pi := Real.pi_pos
  have whole : 2 * Real.pi * x = 2 * Real.pi * (x - n) + n * (2 * Real.pi) := by ring
  rw [whole, Real.cos_add_nat_mul_two_pi, Real.sin_add_nat_mul_two_pi]
  set f := x - n
  have low : 0.07 ≤ f := by linarith
  have high : f ≤ 0.18 := by linarith
  constructor
  · rw [← Real.sin_pi_div_two_sub]
    calc
      (0.28 : ℝ) ≤ 2 / Real.pi * (Real.pi / 2 - 2 * Real.pi * f) := by
        field_simp
        norm_num at high ⊢
        linarith
      _ ≤ Real.sin (Real.pi / 2 - 2 * Real.pi * f) := by
        apply Real.mul_le_sin
        · norm_num at high
          nlinarith
        · norm_num at low
          nlinarith
  · calc
      (0.28 : ℝ) ≤ 2 / Real.pi * (2 * Real.pi * f) := by
        field_simp
        norm_num at low ⊢
        linarith
      _ ≤ Real.sin (2 * Real.pi * f) := by
        apply Real.mul_le_sin
        · norm_num at low
          nlinarith
        · norm_num at high
          nlinarith

theorem second_quarter (low : n + 0.32 ≤ x) (high : x ≤ n + 0.43) :
    0.28 ≤ -Real.cos (2 * Real.pi * x) ∧ 0.28 ≤ Real.sin (2 * Real.pi * x) := by
  obtain ⟨cos, sin⟩ := turn_quarter x
  obtain ⟨c, s⟩ := first_quarter (x := x - 1 / 4) (n := n) (by linarith) (by linarith)
  rw [cos, sin, neg_neg]
  exact ⟨s, c⟩

theorem third_quarter (low : n + 0.57 ≤ x) (high : x ≤ n + 0.68) :
    0.28 ≤ -Real.cos (2 * Real.pi * x) ∧ 0.28 ≤ -Real.sin (2 * Real.pi * x) := by
  obtain ⟨cos, sin⟩ := turn_quarter x
  obtain ⟨c, s⟩ := second_quarter (x := x - 1 / 4) (n := n) (by linarith) (by linarith)
  rw [cos, sin, neg_neg]
  exact ⟨s, c⟩

theorem fourth_quarter (low : n + 0.82 ≤ x) (high : x ≤ n + 0.93) :
    0.28 ≤ Real.cos (2 * Real.pi * x) ∧ 0.28 ≤ -Real.sin (2 * Real.pi * x) := by
  obtain ⟨cos, sin⟩ := turn_quarter x
  obtain ⟨c, s⟩ := third_quarter (x := x - 1 / 4) (n := n) (by linarith) (by linarith)
  rw [cos, sin]
  exact ⟨s, c⟩

end Quarters

/-- The turn from one ray to the next, as a part of a whole one. -/
noncomputable def golden : ℝ := (√5.0 * 0.5 + 0.5) - 1.0

theorem golden_bounds : 0.618 ≤ golden ∧ golden ≤ 0.6181 := by
  have low : (2.236 : ℝ) ≤ √5.0 := Real.le_sqrt_of_sq_le (by norm_num)
  have high : √(5.0 : ℝ) ≤ 2.2361 := Real.sqrt_le_iff.mpr ⟨by norm_num, by norm_num⟩
  rw [golden]
  constructor
  · linarith
  · linarith

noncomputable def height (i count : Nat) : ℝ := 1 - (2 * i + 1) / count

variable {i count : Nat}

theorem height_bounds (inside : i < count) : -1 ≤ height i count ∧ height i count ≤ 1 := by
  have some : (0 : ℝ) < count := by exact_mod_cast Nat.zero_lt_of_lt inside
  have next : (i : ℝ) + 1 ≤ count := by exact_mod_cast inside
  have first : 0 ≤ (2 * (i : ℝ) + 1) / count := by positivity
  have last : (2 * (i : ℝ) + 1) / count ≤ 2 := by
    rw [div_le_iff₀ some]
    linarith
  rw [height]
  constructor
  · linarith
  · linarith

theorem fibonacciPoint_eq (inside : i < count) : (fibonacciPoint i count : Vec3 ℝ) =
    ⟨Real.cos (2 * Real.pi * (i * golden)) * √(1 - height i count ^ 2),
      Real.sin (2 * Real.pi * (i * golden)) * √(1 - height i count ^ 2), height i count⟩ := by
  obtain ⟨low, high⟩ := height_bounds inside
  have flat : saturate (1.0 - sqr (height i count)) = 1 - height i count ^ 2 := by
    rw [saturate, clampTo_real, sqr_real, real_zero, real_one]
    rw [max_eq_left (by nlinarith), min_eq_left (by nlinarith)]
  have tall : (1.0 - (2.0 * ofNat i + 1.0) / ofNat count : ℝ) = height i count := by
    rw [real_one, real_two]
    rfl
  have whole : 2 * Real.pi * ((i : ℝ) * golden - ⌊(i : ℝ) * golden⌋) =
      2 * Real.pi * (i * golden) - ⌊(i : ℝ) * golden⌋ * (2 * Real.pi) := by
    ring
  have angle : (2.0 * Scalar.pi * ((ofNat i : ℝ) * golden - floor ((ofNat i : ℝ) * golden)) : ℝ) =
      2 * Real.pi * (i * golden) - ⌊(i : ℝ) * golden⌋ * (2 * Real.pi) := by
    rw [real_two]
    exact whole
  have turn : ((sqrt 5.0 * 0.5 + 0.5) - 1.0 : ℝ) = golden := rfl
  rw [fibonacciPoint, turn, tall, flat, angle]
  have cos : ∀ a : ℝ, Scalar.cos a = Real.cos a := fun _ => rfl
  have sin : ∀ a : ℝ, Scalar.sin a = Real.sin a := fun _ => rfl
  rw [cos, sin, Real.cos_sub_int_mul_two_pi, Real.sin_sub_int_mul_two_pi, sqrt_real]

theorem length_fibonacciPoint (inside : i < count) :
    (fibonacciPoint i count : Vec3 ℝ).length = 1 := by
  obtain ⟨low, high⟩ := height_bounds inside
  have flat : √(1 - height i count ^ 2) ^ 2 = 1 - height i count ^ 2 :=
    Real.sq_sqrt (by nlinarith)
  rw [Vec3.length, Vec3.dot, fibonacciPoint_eq inside, sqrt_real, Real.sqrt_eq_one]
  dsimp only
  calc
    _ = (Real.cos (2 * Real.pi * (i * golden)) ^ 2 + Real.sin (2 * Real.pi * (i * golden)) ^ 2) *
        √(1 - height i count ^ 2) ^ 2 + height i count ^ 2 := by ring
    _ = 1 := by rw [Real.cos_sq_add_sin_sq, flat]; ring

theorem probeDirection_identity (inside : i < count) :
    (probeDirection i count .identity : Vec3 ℝ) = fibonacciPoint i count := by
  have still : ∀ v : Vec3 ℝ, Quat.identity.rotate v = v := by
    intro v
    simp [Quat.rotate, Quat.identity, Vec3.add_eq, Vec3.scale_eq, Vec3.dot, Vec3.cross]
  rw [probeDirection, still, Vec3.normalize, length_fibonacciPoint inside]
  simp [Vec3.scale_eq]

/-- A ray reaches far into an octant, which is given by the signs of its axes. -/
def Reaches (i count : Nat) (x y z : ℝ) : Prop :=
  0.03 ≤ x * (fibonacciPoint i count : Vec3 ℝ).x ∧ 0.03 ≤ y * (fibonacciPoint i count : Vec3 ℝ).y ∧
    0.03 ≤ z * (fibonacciPoint i count : Vec3 ℝ).z

theorem reaches_of_quarter {x y z : ℝ} (early : 1 ≤ i) (late : i ≤ 22)
    (cos : 0.28 ≤ x * Real.cos (2 * Real.pi * (i * golden)))
    (sin : 0.28 ≤ y * Real.sin (2 * Real.pi * (i * golden))) (tall : 0.03 ≤ z * height i 32) :
    Reaches i 32 x y z := by
  have first : (1 : ℝ) ≤ i := by exact_mod_cast early
  have last : (i : ℝ) ≤ 22 := by exact_mod_cast late
  have wide : (0.4 : ℝ) ≤ √(1 - height i 32 ^ 2) := by
    apply Real.le_sqrt_of_sq_le
    rw [height]
    norm_num
    nlinarith
  have reach : ∀ {a : ℝ}, 0.28 ≤ a → 0.03 ≤ a * √(1 - height i 32 ^ 2) := by
    intro a large
    calc
      (0.03 : ℝ) ≤ 0.28 * 0.4 := by norm_num
      _ ≤ a * √(1 - height i 32 ^ 2) :=
        mul_le_mul large wide (by norm_num) ((by norm_num : (0 : ℝ) ≤ 0.28).trans large)
  rw [Reaches, fibonacciPoint_eq (by omega)]
  refine ⟨?_, ?_, tall⟩
  · rw [← mul_assoc]
    exact reach cos
  · rw [← mul_assoc]
    exact reach sin

theorem exists_reaching {x y z : ℝ} (hx : x = 1 ∨ x = -1) (hy : y = 1 ∨ y = -1)
    (hz : z = 1 ∨ z = -1) : ∃ i < 32, Reaches i 32 x y z := by
  obtain ⟨low, high⟩ := golden_bounds
  rcases hx with rfl | rfl <;> rcases hy with rfl | rfl <;> rcases hz with rfl | rfl
  · obtain ⟨cos, sin⟩ := first_quarter (x := (5 : Nat) * golden) (n := 3) (by push_cast; linarith)
      (by push_cast; linarith)
    exact ⟨5, by norm_num, reaches_of_quarter (by norm_num) (by norm_num) (by linarith)
      (by linarith) (by norm_num [height])⟩
  · obtain ⟨cos, sin⟩ := first_quarter (x := (18 : Nat) * golden) (n := 11) (by push_cast; linarith)
      (by push_cast; linarith)
    exact ⟨18, by norm_num, reaches_of_quarter (by norm_num) (by norm_num) (by linarith)
      (by linarith) (by norm_num [height])⟩
  · obtain ⟨cos, sin⟩ := fourth_quarter (x := (3 : Nat) * golden) (n := 1) (by push_cast; linarith)
      (by push_cast; linarith)
    exact ⟨3, by norm_num, reaches_of_quarter (by norm_num) (by norm_num) (by linarith)
      (by linarith) (by norm_num [height])⟩
  · obtain ⟨cos, sin⟩ := fourth_quarter (x := (16 : Nat) * golden) (n := 9) (by push_cast; linarith)
      (by push_cast; linarith)
    exact ⟨16, by norm_num, reaches_of_quarter (by norm_num) (by norm_num) (by linarith)
      (by linarith) (by norm_num [height])⟩
  · obtain ⟨cos, sin⟩ := second_quarter (x := (7 : Nat) * golden) (n := 4) (by push_cast; linarith)
      (by push_cast; linarith)
    exact ⟨7, by norm_num, reaches_of_quarter (by norm_num) (by norm_num) (by linarith)
      (by linarith) (by norm_num [height])⟩
  · obtain ⟨cos, sin⟩ := second_quarter (x := (20 : Nat) * golden) (n := 12) (by push_cast; linarith)
      (by push_cast; linarith)
    exact ⟨20, by norm_num, reaches_of_quarter (by norm_num) (by norm_num) (by linarith)
      (by linarith) (by norm_num [height])⟩
  · obtain ⟨cos, sin⟩ := third_quarter (x := (1 : Nat) * golden) (n := 0) (by push_cast; linarith)
      (by push_cast; linarith)
    exact ⟨1, by norm_num, reaches_of_quarter (by norm_num) (by norm_num) (by linarith)
      (by linarith) (by norm_num [height])⟩
  · obtain ⟨cos, sin⟩ := third_quarter (x := (22 : Nat) * golden) (n := 13) (by push_cast; linarith)
      (by push_cast; linarith)
    exact ⟨22, by norm_num, reaches_of_quarter (by norm_num) (by norm_num) (by linarith)
      (by linarith) (by norm_num [height])⟩

theorem exists_weight (dir : Vec3 ℝ) : ∃ i < 32,
    0.03 * (|dir.x| + |dir.y| + |dir.z|) ≤ dir.dot (probeDirection i 32 .identity) := by
  have sign : ∀ a : ℝ, ∃ s, (s = 1 ∨ s = -1) ∧ a = |a| * s := by
    intro a
    rcases abs_choice a with same | opposite
    · exact ⟨1, .inl rfl, by rw [mul_one, same]⟩
    · exact ⟨-1, .inr rfl, by rw [mul_neg_one, opposite, neg_neg]⟩
  obtain ⟨x, hx, signX⟩ := sign dir.x
  obtain ⟨y, hy, signY⟩ := sign dir.y
  obtain ⟨z, hz, signZ⟩ := sign dir.z
  obtain ⟨i, below, reachX, reachY, reachZ⟩ := exists_reaching hx hy hz
  refine ⟨i, below, ?_⟩
  rw [probeDirection_identity below]
  set r : Vec3 ℝ := fibonacciPoint i 32
  calc
    0.03 * (|dir.x| + |dir.y| + |dir.z|) = |dir.x| * 0.03 + |dir.y| * 0.03 + |dir.z| * 0.03 := by ring
    _ ≤ |dir.x| * (x * r.x) + |dir.y| * (y * r.y) + |dir.z| * (z * r.z) :=
      add_le_add (add_le_add (mul_le_mul_of_nonneg_left reachX (abs_nonneg _))
        (mul_le_mul_of_nonneg_left reachY (abs_nonneg _)))
        (mul_le_mul_of_nonneg_left reachZ (abs_nonneg _))
    _ = dir.dot r := by
      rw [Vec3.dot, ← mul_assoc, ← mul_assoc, ← mul_assoc, ← signX, ← signY, ← signZ]

end Ray

theorem Updating.le_cosineSum {texel : Vec2 Nat} {resolution : Nat}
    (inside : texel.x < resolution ∧ texel.y < resolution) :
    0.03 ≤ cosineSum 32 32 .identity (Octahedral.texelDirection texel resolution) := by
  obtain ⟨x, y⟩ := Octahedral.abs_texelCoords_lt inside
  have long := Octahedral.one_le_sum_abs_decode x.le y.le
  rw [← Octahedral.texelDirection] at long
  set dir : Vec3 ℝ := Octahedral.texelDirection texel resolution
  obtain ⟨i, below, weight⟩ := Ray.exists_weight dir
  calc
    (0.03 : ℝ) ≤ dir.dot (Ray.probeDirection i 32 .identity) := by linarith
    _ ≤ max (dir.dot (Ray.probeDirection i 32 .identity)) 0 := le_max_left _ _
    _ ≤ cosineSum 32 32 .identity dir :=
      Finset.single_le_sum (f := fun ray => max (dir.dot (Ray.probeDirection ray 32 .identity)) 0)
        (fun ray _ => le_max_right _ _) (Finset.mem_range.mpr below)

end IrradianceField
