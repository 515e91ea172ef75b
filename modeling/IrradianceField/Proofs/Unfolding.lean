import IrradianceField.Scalar.Real
import IrradianceField.Direction.Octahedral

/-!
Unfolding: octahedral coordinates in exact arithmetic. Off the edges of the square there is one point
for each direction; on an edge, the two points that mirror each other are one direction.
-/

namespace IrradianceField.Octahedral

open Scalar

variable {a k : ℝ} {p coords coords' : Vec2 ℝ} {dir : Vec3 ℝ}

section Signs

theorem signNotZero_of_nonneg (high : 0 ≤ a) : signNotZero a = 1 := by
  simp [signNotZero, high]

theorem signNotZero_of_neg (low : a < 0) : signNotZero a = -1 := by
  simp [signNotZero, low]

theorem abs_signNotZero (a : ℝ) : |signNotZero a| = 1 := by
  rw [signNotZero]
  split
  · simp
  · simp

theorem abs_mul_signNotZero (a : ℝ) : |a| * signNotZero a = a := by
  rcases le_or_gt 0 a with high | low
  · rw [signNotZero_of_nonneg high, abs_of_nonneg high, mul_one]
  · rw [signNotZero_of_neg low, abs_of_neg low, neg_mul_neg, mul_one]

theorem signNotZero_mul (some : 0 < k) (a : ℝ) : signNotZero (k * a) = signNotZero a := by
  rcases le_or_gt 0 a with high | low
  · rw [signNotZero_of_nonneg high, signNotZero_of_nonneg (mul_nonneg some.le high)]
  · rw [signNotZero_of_neg low, signNotZero_of_neg (mul_neg_of_pos_of_neg some low)]

theorem signNotZero_signNotZero (a : ℝ) : signNotZero (signNotZero a) = signNotZero a := by
  rcases le_or_gt 0 a with high | low
  · rw [signNotZero_of_nonneg high, signNotZero_of_nonneg one_pos.le]
  · rw [signNotZero_of_neg low, signNotZero_of_neg neg_one_lt_zero]

end Signs

section Folding

theorem fold_eq (p : Vec2 ℝ) :
    fold p = ⟨(1 - |p.y|) * signNotZero p.x, (1 - |p.x|) * signNotZero p.y⟩ := by
  simp only [fold, Vec2.mul_eq, Vec2.swap, Vec2.map, real_one, abs_real]

theorem abs_folded (low : |a| ≤ 1) (b : ℝ) : |(1 - |a|) * signNotZero b| = 1 - |a| := by
  rw [abs_mul, abs_signNotZero, mul_one, abs_of_nonneg (sub_nonneg.mpr low)]

theorem abs_fold (hx : |p.x| ≤ 1) (hy : |p.y| ≤ 1) :
    |(fold p).x| = 1 - |p.y| ∧ |(fold p).y| = 1 - |p.x| := by
  rw [fold_eq]
  exact ⟨abs_folded hy p.x, abs_folded hx p.y⟩

theorem abs_fold_le (hx : |p.x| ≤ 1) (hy : |p.y| ≤ 1) :
    |(fold p).x| ≤ 1 ∧ |(fold p).y| ≤ 1 := by
  obtain ⟨x, y⟩ := abs_fold hx hy
  rw [x, y]
  exact ⟨sub_le_self 1 (abs_nonneg _), sub_le_self 1 (abs_nonneg _)⟩

theorem fold_fold (hx : |p.x| < 1) (hy : |p.y| < 1) : fold (fold p) = p := by
  obtain ⟨x, y⟩ := abs_fold hx.le hy.le
  have signs : signNotZero (fold p).x = signNotZero p.x ∧
      signNotZero (fold p).y = signNotZero p.y := by
    rw [fold_eq]
    constructor
    · rw [signNotZero_mul (sub_pos.mpr hy), signNotZero_signNotZero]
    · rw [signNotZero_mul (sub_pos.mpr hx), signNotZero_signNotZero]
  rw [fold_eq (fold p), x, y, signs.1, signs.2, sub_sub_cancel, sub_sub_cancel, abs_mul_signNotZero,
    abs_mul_signNotZero]

end Folding

section Encoding

theorem abs_encode_le (dir : Vec3 ℝ) : |(encode dir).x| ≤ 1 ∧ |(encode dir).y| ≤ 1 := by
  have share : ∀ {a s : ℝ}, |a| ≤ s → |a / s| ≤ 1 := by
    intro a s part
    rw [abs_div, abs_of_nonneg ((abs_nonneg a).trans part)]
    exact div_le_one_of_le₀ part ((abs_nonneg a).trans part)
  have x := share (a := dir.x) (s := |dir.x| + |dir.y| + |dir.z|)
    (by linarith [abs_nonneg dir.y, abs_nonneg dir.z])
  have y := share (a := dir.y) (s := |dir.x| + |dir.y| + |dir.z|)
    (by linarith [abs_nonneg dir.x, abs_nonneg dir.z])
  rw [encode]
  split
  · exact abs_fold_le x y
  · exact ⟨x, y⟩

theorem encode_scale (some : 0 < k) (dir : Vec3 ℝ) : encode (dir.scale k) = encode dir := by
  have sum : |dir.x * k| + |dir.y * k| + |dir.z * k| = (|dir.x| + |dir.y| + |dir.z|) * k := by
    rw [abs_mul, abs_mul, abs_mul, abs_of_pos some, ← add_mul, ← add_mul]
  have below : dir.z * k < 0 ↔ dir.z < 0 := by
    rw [mul_neg_iff]
    constructor
    · rintro (⟨-, low⟩ | ⟨low, -⟩)
      · exact absurd low some.not_gt
      · exact low
    · exact fun low => .inr ⟨low, some⟩
  simp only [encode, Vec3.scale_eq, Vec3.xy, Vec2.divide_eq, abs_real, lt_real, real_zero, sum, below,
    mul_div_mul_right _ _ some.ne']

theorem encode_eq (sum : |dir.x| + |dir.y| + |dir.z| = 1) :
    encode dir = if dir.z < 0 then fold dir.xy else dir.xy := by
  simp only [encode, Vec2.divide_eq, Vec3.xy, abs_real, lt_real, real_zero, sum, div_one,
    decide_eq_true_eq]

end Encoding

section Unfolding

theorem unfold_of_le (above : |coords.x| + |coords.y| ≤ 1) :
    unfold coords = ⟨coords.x, coords.y, 1 - |coords.x| - |coords.y|⟩ := by
  have high : ¬1 - |coords.x| - |coords.y| < 0 := by linarith
  simp only [unfold, abs_real, lt_real, real_one, real_zero, high, decide_false, Bool.false_eq_true,
    if_false, Vec2.extend]

theorem unfold_of_lt (below : 1 < |coords.x| + |coords.y|) :
    unfold coords = ⟨(fold coords).x, (fold coords).y, 1 - |coords.x| - |coords.y|⟩ := by
  have low : 1 - |coords.x| - |coords.y| < 0 := by linarith
  simp only [unfold, abs_real, lt_real, real_one, real_zero, low, decide_true, if_true, Vec2.extend]

theorem unfold_z (coords : Vec2 ℝ) : (unfold coords).z = 1 - |coords.x| - |coords.y| := by
  rcases le_or_gt (|coords.x| + |coords.y|) 1 with above | below
  · rw [unfold_of_le above]
  · rw [unfold_of_lt below]

theorem sum_abs_unfold (x : |coords.x| ≤ 1) (y : |coords.y| ≤ 1) :
    |(unfold coords).x| + |(unfold coords).y| + |(unfold coords).z| = 1 := by
  rcases le_or_gt (|coords.x| + |coords.y|) 1 with above | below
  · have high : 0 ≤ 1 - |coords.x| - |coords.y| := by linarith
    rw [unfold_of_le above, abs_of_nonneg high]
    ring
  · have low : 1 - |coords.x| - |coords.y| < 0 := by linarith
    rw [unfold_of_lt below, (abs_fold x y).1, (abs_fold x y).2, abs_of_neg low]
    ring

theorem encode_unfold (x : |coords.x| < 1) (y : |coords.y| < 1) : encode (unfold coords) = coords := by
  rw [encode_eq (sum_abs_unfold x.le y.le), unfold_z]
  rcases le_or_gt (|coords.x| + |coords.y|) 1 with above | below
  · rw [if_neg (by linarith), unfold_of_le above, Vec3.xy]
  · rw [if_pos (by linarith), unfold_of_lt below, Vec3.xy]
    exact fold_fold x y

end Unfolding

section Decoding

theorem length_unfold (x : |coords.x| ≤ 1) (y : |coords.y| ≤ 1) :
    0 < (unfold coords).length ∧ (unfold coords).length ≤ 1 := by
  have sum := sum_abs_unfold x y
  set v := unfold coords
  have length : v.length = √(|v.x| ^ 2 + |v.y| ^ 2 + |v.z| ^ 2) := by
    simp only [Vec3.length_eq, sq_abs]
  have square : (|v.x| + |v.y| + |v.z|) ^ 2 = 1 := by rw [sum, one_pow]
  rw [length]
  constructor
  · rw [Real.sqrt_pos]
    nlinarith [sq_nonneg (|v.x| - |v.y|), sq_nonneg (|v.x| - |v.z|), sq_nonneg (|v.y| - |v.z|)]
  · rw [Real.sqrt_le_one]
    nlinarith [mul_nonneg (abs_nonneg v.x) (abs_nonneg v.y),
      mul_nonneg (abs_nonneg v.x) (abs_nonneg v.z), mul_nonneg (abs_nonneg v.y) (abs_nonneg v.z)]

theorem decode_eq (coords : Vec2 ℝ) :
    decode coords = (unfold coords).scale (1 / (unfold coords).length) := by
  rw [decode, Vec3.normalize, real_one]

theorem sum_abs_decode (x : |coords.x| ≤ 1) (y : |coords.y| ≤ 1) :
    |(decode coords).x| + |(decode coords).y| + |(decode coords).z| =
      1 / (unfold coords).length := by
  have some : 0 < 1 / (unfold coords).length := one_div_pos.mpr (length_unfold x y).1
  simp only [decode_eq, Vec3.scale_eq, abs_mul, abs_of_pos some, ← add_mul, sum_abs_unfold x y,
    one_mul]

theorem one_le_sum_abs_decode (x : |coords.x| ≤ 1) (y : |coords.y| ≤ 1) :
    1 ≤ |(decode coords).x| + |(decode coords).y| + |(decode coords).z| := by
  obtain ⟨some, short⟩ := length_unfold x y
  rw [sum_abs_decode x y]
  exact (one_le_div some).mpr short

theorem encode_decode (x : |coords.x| < 1) (y : |coords.y| < 1) : encode (decode coords) = coords := by
  rw [decode_eq, encode_scale (one_div_pos.mpr (length_unfold x.le y.le).1), encode_unfold x y]

theorem unfold_eq_of_decode (x : |coords.x| ≤ 1) (y : |coords.y| ≤ 1) (x' : |coords'.x| ≤ 1)
    (y' : |coords'.y| ≤ 1) (same : decode coords = decode coords') :
    unfold coords = unfold coords' := by
  have lengths : 1 / (unfold coords).length = 1 / (unfold coords').length := by
    rw [← sum_abs_decode x y, ← sum_abs_decode x' y', same]
  have some : 1 / (unfold coords').length ≠ 0 := (one_div_pos.mpr (length_unfold x' y').1).ne'
  rw [decode_eq, decode_eq, lengths] at same
  simp only [Vec3.scale_eq, Vec3.mk.injEq, mul_left_inj' some] at same
  obtain ⟨sameX, sameY, sameZ⟩ := same
  calc unfold coords
      = ⟨(unfold coords).x, (unfold coords).y, (unfold coords).z⟩ := rfl
    _ = unfold coords' := by rw [sameX, sameY, sameZ]

end Decoding

section Covering

theorem sum_abs_pos (some : dir ≠ .zero) : 0 < |dir.x| + |dir.y| + |dir.z| := by
  have x := abs_nonneg dir.x
  have y := abs_nonneg dir.y
  have z := abs_nonneg dir.z
  rcases (add_nonneg (add_nonneg x y) z).lt_or_eq with positive | none
  · exact positive
  · have still : dir.x = 0 ∧ dir.y = 0 ∧ dir.z = 0 :=
      ⟨abs_eq_zero.mp (by linarith), abs_eq_zero.mp (by linarith), abs_eq_zero.mp (by linarith)⟩
    refine absurd ?_ some
    rw [Vec3.zero, real_zero, Vec3.mk.injEq]
    exact still

/-- Points of the octahedron are found again from their coordinates. Those of the lower half are
less than 1 away along both axes, where folding twice leads back. -/
theorem unfold_encode_of_sum (sum : |dir.x| + |dir.y| + |dir.z| = 1) :
    unfold (encode dir) = dir := by
  have x := abs_nonneg dir.x
  have y := abs_nonneg dir.y
  rw [encode_eq sum]
  split
  · rename_i low
    have height := abs_of_neg low
    have short : |dir.xy.x| < 1 ∧ |dir.xy.y| < 1 := by
      simp only [Vec3.xy]
      constructor
      · linarith
      · linarith
    obtain ⟨column, row⟩ := abs_fold short.1.le short.2.le
    simp only [Vec3.xy] at column row
    have level : 1 - (1 - |dir.y|) - (1 - |dir.x|) = dir.z := by linarith
    rw [unfold_of_lt (by simp only [Vec3.xy, column, row]; linarith), fold_fold short.1 short.2]
    simp only [Vec3.xy, column, row, level]
  · rename_i high
    have height := abs_of_nonneg (not_lt.mp high)
    have above : |dir.xy.x| + |dir.xy.y| ≤ 1 := by
      simp only [Vec3.xy]
      linarith [abs_nonneg dir.z]
    have level : 1 - |dir.x| - |dir.y| = dir.z := by linarith
    rw [unfold_of_le above]
    simp only [Vec3.xy, level]

theorem unfold_encode (some : dir ≠ .zero) :
    unfold (encode dir) = dir.divide (|dir.x| + |dir.y| + |dir.z|) := by
  have positive := sum_abs_pos some
  set s := |dir.x| + |dir.y| + |dir.z| with sumOf
  have sum : |(dir.divide s).x| + |(dir.divide s).y| + |(dir.divide s).z| = 1 := by
    simp only [Vec3.divide_eq, abs_div, abs_of_pos positive, ← add_div]
    exact div_self positive.ne'
  rw [← unfold_encode_of_sum sum, Vec3.divide_eq_scale, encode_scale (one_div_pos.mpr positive)]

theorem decode_encode (some : dir ≠ .zero) : decode (encode dir) = dir.normalize := by
  rw [decode, unfold_encode some, Vec3.divide_eq_scale,
    Vec3.normalize_scale (one_div_pos.mpr (sum_abs_pos some))]

/-- Directions are found again from their coordinates, and coordinates off the edges of the square
from their direction. -/
theorem mutually_inverse :
    (∀ dir : Vec3 ℝ, dir ≠ .zero →
      (|(encode dir).x| ≤ 1 ∧ |(encode dir).y| ≤ 1) ∧
        (∀ k : ℝ, 0 < k → encode (dir.scale k) = encode dir) ∧
        unfold (encode dir) = dir.divide (|dir.x| + |dir.y| + |dir.z|) ∧
        decode (encode dir) = dir.normalize) ∧
      ∀ coords : Vec2 ℝ, |coords.x| < 1 → |coords.y| < 1 → encode (decode coords) = coords :=
  ⟨fun dir some => ⟨abs_encode_le dir, fun _ positive => encode_scale positive dir,
    unfold_encode some, decode_encode some⟩, fun _ => encode_decode⟩

/-- A direction whose coordinates are on an edge of the square, and coordinates on a fold line. -/
theorem mutually_inverse_edge :
    encode (⟨-1, 0, -3⟩ : Vec3 ℝ) = ⟨-1, 3 / 4⟩ ∧
      unfold (encode ⟨-1, 0, -3⟩) = (⟨-1, 0, -3⟩ : Vec3 ℝ).divide (|-1| + |0| + |-3|) ∧
      encode (decode ⟨-3 / 4, 1 / 4⟩) = (⟨-3 / 4, 1 / 4⟩ : Vec2 ℝ) := by
  have some : (⟨-1, 0, -3⟩ : Vec3 ℝ) ≠ .zero := by
    simp [Vec3.zero, Vec3.splat]
  obtain ⟨directions, points⟩ := mutually_inverse
  obtain ⟨-, -, back, -⟩ := directions ⟨-1, 0, -3⟩ some
  refine ⟨?_, back, points ⟨-3 / 4, 1 / 4⟩ (by norm_num [abs_lt]) (by norm_num [abs_lt])⟩
  norm_num [encode, fold_eq, Vec3.xy, Vec2.divide_eq, signNotZero]

end Covering

section Seams

/-- A function of the square that has the same value at the two points of each edge that mirror each
other. -/
structure IsSeamless {γ : Type} (f : Vec2 ℝ → γ) : Prop where
  top : ∀ u, |u| ≤ 1 → f ⟨u, 1⟩ = f ⟨-u, 1⟩
  bottom : ∀ u, |u| ≤ 1 → f ⟨u, -1⟩ = f ⟨-u, -1⟩
  right : ∀ v, |v| ≤ 1 → f ⟨1, v⟩ = f ⟨1, -v⟩
  left : ∀ v, |v| ≤ 1 → f ⟨-1, v⟩ = f ⟨-1, -v⟩

theorem IsSeamless.comp {γ δ : Type} {f : Vec2 ℝ → γ} (seamless : IsSeamless f) (g : γ → δ) :
    IsSeamless fun p => g (f p) := by
  constructor
  case top => exact fun u inside => congrArg g (seamless.top u inside)
  case bottom => exact fun u inside => congrArg g (seamless.bottom u inside)
  case right => exact fun v inside => congrArg g (seamless.right v inside)
  case left => exact fun v inside => congrArg g (seamless.left v inside)

theorem IsSeamless.congr {γ : Type} {f g : Vec2 ℝ → γ} (seamless : IsSeamless f)
    (same : ∀ coords : Vec2 ℝ, |coords.x| ≤ 1 → |coords.y| ≤ 1 → g coords = f coords) :
    IsSeamless g := by
  have edge : |(1 : ℝ)| ≤ 1 := abs_one.le
  have edge' : |(-1 : ℝ)| ≤ 1 := by rw [abs_neg, abs_one]
  have mirrored : ∀ {u : ℝ}, |u| ≤ 1 → |-u| ≤ 1 := fun inside => by rwa [abs_neg]
  constructor
  case top =>
    intro u inside
    rw [same ⟨u, 1⟩ inside edge, same ⟨-u, 1⟩ (mirrored inside) edge, seamless.top u inside]
  case bottom =>
    intro u inside
    rw [same ⟨u, -1⟩ inside edge', same ⟨-u, -1⟩ (mirrored inside) edge', seamless.bottom u inside]
  case right =>
    intro v inside
    rw [same ⟨1, v⟩ edge inside, same ⟨1, -v⟩ edge (mirrored inside), seamless.right v inside]
  case left =>
    intro v inside
    rw [same ⟨-1, v⟩ edge' inside, same ⟨-1, -v⟩ edge' (mirrored inside), seamless.left v inside]

theorem IsSeamless.swap {γ : Type} {f : Vec2 ℝ → γ} (seamless : IsSeamless f) :
    IsSeamless fun p => f p.swap :=
  ⟨seamless.right, seamless.left, seamless.top, seamless.bottom⟩

variable {γ : Type} {f : Vec2 ℝ → γ} {x x' y y' : ℝ}

theorem IsSeamless.along_x (seamless : IsSeamless f) (edge : |y| = 1) (inside : |x| ≤ 1)
    (lengths : |x| = |x'|) : f ⟨x, y⟩ = f ⟨x', y⟩ := by
  rcases abs_eq_abs.mp lengths with rfl | rfl
  · rfl
  rw [abs_neg] at inside
  rcases eq_or_eq_neg_of_abs_eq edge with rfl | rfl
  · exact (seamless.top x' inside).symm
  · exact (seamless.bottom x' inside).symm

theorem eq_of_folded {a b c : ℝ} (short : |a| < 1) (lengths : |b| = |c|)
    (same : (1 - |a|) * signNotZero b = (1 - |a|) * signNotZero c) : b = c := by
  have signs := mul_left_cancel₀ (sub_pos.mpr short).ne' same
  rw [← abs_mul_signNotZero b, lengths, signs, abs_mul_signNotZero]

theorem IsSeamless.eq_of_unfold (seamless : IsSeamless f) (x : |coords.x| ≤ 1) (y : |coords.y| ≤ 1)
    (x' : |coords'.x| ≤ 1) (y' : |coords'.y| ≤ 1) (same : unfold coords = unfold coords') :
    f coords = f coords' := by
  have heights : 1 - |coords.x| - |coords.y| = 1 - |coords'.x| - |coords'.y| := by
    rw [← unfold_z, ← unfold_z, same]
  rcases le_or_gt (|coords.x| + |coords.y|) 1 with above | below
  · rw [unfold_of_le above, unfold_of_le (by linarith), Vec3.mk.injEq] at same
    exact congrArg f (congrArg₂ Vec2.mk same.1 same.2.1)
  rw [unfold_of_lt below, unfold_of_lt (by linarith), Vec3.mk.injEq] at same
  obtain ⟨left, right⟩ := abs_fold x y
  obtain ⟨left', right'⟩ := abs_fold x' y'
  have lengthsX : |coords.x| = |coords'.x| := by
    rw [same.2.1] at right
    linarith
  have lengthsY : |coords.y| = |coords'.y| := by
    rw [same.1] at left
    linarith
  rw [fold_eq, fold_eq, ← lengthsX, ← lengthsY] at same
  calc
    f coords = f ⟨coords'.x, coords.y⟩ := by
      rcases y.lt_or_eq with short | edge
      · rw [← eq_of_folded short lengthsX same.1]
      · exact seamless.along_x edge x lengthsX
    _ = f coords' := by
      rcases x.lt_or_eq with short | edge
      · rw [eq_of_folded short lengthsY same.2.1]
      · exact seamless.swap.along_x (x := coords.y) (y := coords'.x) (lengthsX ▸ edge) y lengthsY

theorem IsSeamless.eq_of_decode (seamless : IsSeamless f) (x : |coords.x| ≤ 1)
    (y : |coords.y| ≤ 1) (x' : |coords'.x| ≤ 1) (y' : |coords'.y| ≤ 1)
    (same : decode coords = decode coords') : f coords = f coords' :=
  seamless.eq_of_unfold x y x' y' (unfold_eq_of_decode x y x' y' same)

end Seams

section Texels

variable {texel : Vec2 Nat} {resolution : Nat}

theorem abs_texelCoords_lt (inside : texel.x < resolution ∧ texel.y < resolution) :
    |(texelCoords texel resolution : Vec2 ℝ).x| < 1 ∧
      |(texelCoords texel resolution : Vec2 ℝ).y| < 1 := by
  have axis : ∀ {i : Nat}, i < resolution → |((i : ℝ) + 0.5) / resolution * 2.0 - 1.0| < 1 := by
    intro i below
    have some : (0 : ℝ) < resolution := by exact_mod_cast Nat.zero_lt_of_lt below
    have next : (i : ℝ) + 1 ≤ resolution := by exact_mod_cast below
    have first : 0 < ((i : ℝ) + 1 / 2) / resolution := by positivity
    have last : ((i : ℝ) + 1 / 2) / resolution < 1 := by
      rw [div_lt_one some]
      linarith
    rw [real_half, real_two, real_one, abs_lt]
    constructor
    · linarith
    · linarith
  exact ⟨axis inside.1, axis inside.2⟩

theorem encode_texelDirection (inside : texel.x < resolution ∧ texel.y < resolution)
    (some : 0 < k) :
    encode ((texelDirection texel resolution).scale k) = texelCoords texel resolution := by
  obtain ⟨x, y⟩ := abs_texelCoords_lt inside
  rw [encode_scale some, texelDirection, encode_decode x y]

end Texels

end IrradianceField.Octahedral
